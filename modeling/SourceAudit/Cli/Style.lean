import SourceAudit.Snippet

/-!
# Styled text

A `Terminal` shows text in colours or without them. Styled text that holds a reset of its own goes on in its style
after it.
-/

namespace SourceAudit.Cli

/-- Where text is shown. -/
structure Terminal where
  colored : Bool

/-- A style by the codes that select it. -/
structure Style where
  codes : String

namespace Style

def bold : Style := ⟨"1"⟩

def dimmed : Style := ⟨"2"⟩

def red : Style := ⟨"31"⟩

def green : Style := ⟨"32"⟩

def yellow : Style := ⟨"33"⟩

def blue : Style := ⟨"34"⟩

def cyan : Style := ⟨"36"⟩

def boldRed : Style := ⟨"1;31"⟩

def boldGreen : Style := ⟨"1;32"⟩

def start (s : Style) : List Char := ['\x1b', '['] ++ s.codes.toList ++ ['m']

/-- The text that ends every style. -/
def reset : List Char := ['\x1b', '[', '0', 'm']

/-- Selects the style again after each reset in a text. -/
def resume (s : Style) : List Char → List Char
  | [] => []
  | '\x1b' :: '[' :: '0' :: 'm' :: cs => reset ++ s.start ++ s.resume cs
  | c :: cs => c :: s.resume cs

end Style

/-- A text in a style, at least `width` characters wide. -/
def Terminal.paint (t : Terminal) (s : Style) (text : String) (width : Nat := 0) : String :=
  if t.colored then
    let inner := String.ofList (s.resume text.toList)
    String.ofList s.start ++ padRight width inner ++ String.ofList Style.reset
  else padRight width text

end SourceAudit.Cli
