import SourceAudit.Rule.Set
import SourceAudit.Text.Lines

/-!
# Built-in rules

`Builtin.rules` : the rules that are there without any rule file.
-/

namespace SourceAudit.Builtin

/-- Code injection through dynamic evaluation. -/
def evalInjection : Rule where
  id := "eval-injection"
  name := "Code injection through dynamic evaluation"
  description := "Request data reaches a function that evaluates strings as code."
  severity := .critical
  category := "injection"
  patterns := [
    { kind := .query, value := Text.joinLines [
        "TAINT \x7b",
        "  SOURCE: \x7b MemberExpression: /^(req|request)\\.(body|query|params|args|form|json|cookies)\\b/ \x7d,",
        "  SINK: \x7b CallExpression: /^(eval|exec|Function|setTimeout|setInterval|vm\\.runInContext)\\s*\\(/ \x7d,",
        "  SANITIZER: \x7b CallExpression: /^(sanitize|escape|validate)\\w*\\s*\\(/i \x7d,",
        "\x7d"] }]
  languages := ["javascript", "typescript", "python"]
  fix := some {
    recommendation := "Never evaluate request data as code; dispatch on an allow-list of known actions instead."
    before := some "eval(req.body.expression)"
    after := some "handlers[req.body.action]?.()"
    references := ["https://owasp.org/www-community/attacks/Code_Injection"] }
  metadata := some {
    confidence := some (Binary64.ofDecimal false 85 (-2))
    cwe := some "CWE-95"
    owasp := some "A03:2021 - Injection"
    tags := ["injection", "taint"] }

def sqlInjection : Rule where
  id := "sql-injection"
  name := "SQL injection"
  description := "SQL statements are built from request data or string interpolation."
  severity := .critical
  category := "injection"
  patterns := [
    { kind := .query, value := Text.joinLines [
        "OR(",
        "  TAINT \x7b",
        "    SOURCE: \x7b MemberExpression: /^(req|request)\\.(body|query|params|args|form|json)\\b/ \x7d,",
        "    SINK: \x7b CallExpression: /\\.(execute|executemany|query|raw)\\s*\\(/ \x7d,",
        "    SANITIZER: [\x7b CallExpression: /^(escape|quote|sanitize)\\w*\\s*\\(/i \x7d],",
        "  \x7d,",
        "  \x7b",
        "    Assignment: /(SELECT|INSERT|UPDATE|DELETE)\\s.*(" ++
          "\\\x7b\\w+\\\x7d|\"\\s*\\+|\\+\\s*\"|%\\s*\\(|\\.format\\()/i,",
        "    reason: \"SQL assembled with string interpolation\",",
        "  \x7d",
        ")"] }]
  languages := ["javascript", "typescript", "python"]
  fix := some {
    recommendation := "Use parameterized queries and pass user values as bound parameters."
    before := some "db.execute(f\"SELECT * FROM users WHERE id = \x7buser_id\x7d\")"
    after := some "db.execute(\"SELECT * FROM users WHERE id = ?\", (user_id,))"
    references := ["https://cheatsheetseries.owasp.org/cheatsheets/SQL_Injection_Prevention_Cheat_Sheet.html"] }
  metadata := some {
    confidence := some (Binary64.ofDecimal false 8 (-1))
    cwe := some "CWE-89"
    owasp := some "A03:2021 - Injection"
    tags := ["injection", "sql"] }

def commandInjection : Rule where
  id := "command-injection"
  name := "OS command injection"
  description := "A shell command is built from dynamic input."
  severity := .critical
  category := "injection"
  patterns := [
    { kind := .query, value := Text.joinLines [
        "AND(",
        "  \x7b CallExpression: /^(os\\.system|os\\.popen|subprocess\\.\\w+|child_process\\.exec\\w*|exec|" ++
          "execSync)\\s*\\(/ \x7d,",
        "  \x7b",
        "    CallExpression: [/\\bf[\"']/, /[\"']\\s*\\+\\s*\\w/, /\\$\\\x7b/, /shell\\s*=\\s*True/, /%\\s*\\w/],",
        "    reason: \"shell command built from dynamic input\",",
        "  \x7d",
        ")"] }]
  languages := ["javascript", "typescript", "python"]
  fix := some {
    recommendation := "Pass arguments as a list without a shell and validate them against an allow-list."
    before := some "os.system(f\"ping -c 1 \x7bhost\x7d\")"
    after := some "subprocess.run([\"ping\", \"-c\", \"1\", host], check=True)"
    references := ["https://owasp.org/www-community/attacks/Command_Injection"] }
  metadata := some {
    confidence := some (Binary64.ofDecimal false 8 (-1))
    cwe := some "CWE-78"
    owasp := some "A03:2021 - Injection"
    tags := ["injection", "shell"] }

/-- Cross-site scripting through HTML injection. -/
def domXss : Rule where
  id := "dom-xss"
  name := "Cross-site scripting through HTML injection"
  description := "Request data is written into the DOM as HTML."
  severity := .high
  category := "xss"
  patterns := [
    { kind := .query, value := Text.joinLines [
        "TAINT \x7b",
        "  SOURCE: \x7b MemberExpression: /^(req\\.(body|query|params)|" ++
          "location\\.(hash|search)|document\\.cookie)\\b/ \x7d,",
        "  SINK: \x7b Assignment: /\\.(innerHTML|outerHTML)\\s*=/ \x7d,",
        "  SANITIZER: \x7b CallExpression: /^(DOMPurify\\.sanitize|escapeHtml|sanitize)\\s*\\(/ \x7d,",
        "\x7d"] }]
  languages := ["javascript", "typescript"]
  fix := some {
    recommendation := "Assign untrusted text through textContent or sanitize the HTML first."
    before := some "el.innerHTML = location.hash"
    after := some "el.textContent = location.hash"
    references := [
      "https://cheatsheetseries.owasp.org/cheatsheets/Cross_Site_Scripting_Prevention_Cheat_Sheet.html"] }
  metadata := some {
    confidence := some (Binary64.ofDecimal false 75 (-2))
    cwe := some "CWE-79"
    owasp := some "A03:2021 - Injection" }

def pathTraversal : Rule where
  id := "path-traversal"
  name := "Path traversal"
  description := "A file path taken from the request is used to read or serve files."
  severity := .high
  category := "path-traversal"
  patterns := [
    { kind := .query, value := "flow(request\\.args->send_file)" },
    { kind := .query, value := "flow(request\\.args->open\\()" },
    { kind := .query, value := "flow(req\\.query->readFile)" },
    { kind := .query, value := "flow(req\\.params->readFile)" }]
  languages := ["javascript", "typescript", "python"]
  fix := some {
    recommendation := "Resolve the path and check that it stays inside the intended base directory."
    references := ["https://owasp.org/www-community/attacks/Path_Traversal"] }
  metadata := some {
    confidence := some (Binary64.ofDecimal false 6 (-1))
    cwe := some "CWE-22"
    owasp := some "A01:2021 - Broken Access Control" }

def jwtVerificationDisabled : Rule where
  id := "jwt-verification-disabled"
  name := "JWT signature verification disabled"
  description := "Tokens are decoded without verifying their signature or with the none algorithm."
  severity := .high
  category := "authentication"
  patterns := [
    { kind := .query, value := Text.joinLines [
        "OR(",
        "  \x7b CallExpression: /^jwt\\.decode\\(.*verify\\s*=\\s*False/ \x7d,",
        "  \x7b CallExpression: /^jwt\\.decode\\(.*verify_signature[\"']?\\s*:\\s*False/ \x7d,",
        "  \x7b CallExpression: /^jwt\\.(decode|verify)\\(.*algorithms?[\"']?\\s*[:=]\\s*\\[?\\s*[\"']none[\"']/i \x7d",
        ")"] }]
  languages := ["python", "javascript", "typescript"]
  fix := some {
    recommendation := "Always verify JWT signatures and pin the accepted algorithms."
    before := some "jwt.decode(token, options=\x7b\"verify_signature\": False\x7d)"
    after := some "jwt.decode(token, key, algorithms=[\"HS256\"])" }
  metadata := some {
    confidence := some (Binary64.ofDecimal false 9 (-1))
    cwe := some "CWE-347"
    owasp := some "A07:2021 - Identification and Authentication Failures" }

def insecureDeserialization : Rule where
  id := "insecure-deserialization"
  name := "Insecure deserialization"
  description := "Data is deserialized with a loader that can execute arbitrary code."
  severity := .high
  category := "deserialization"
  patterns := [
    { kind := .query, value := "CallExpression[name=pickle.loads]" },
    { kind := .query, value := "CallExpression[name=pickle.load]" },
    { kind := .query, value := "CallExpression[name=yaml.load]" }]
  languages := ["python"]
  fix := some {
    recommendation := "Use a data-only format such as JSON, or yaml.safe_load for YAML." }
  metadata := some {
    cwe := some "CWE-502"
    owasp := some "A08:2021 - Software and Data Integrity Failures" }

def debugModeEnabled : Rule where
  id := "debug-mode-enabled"
  name := "Debug mode enabled"
  description := "The web application is started with debug mode on."
  severity := .medium
  category := "configuration"
  patterns := [
    { kind := .query, value :=
      "\x7b CallExpression: /\\.run\\(.*debug\\s*=\\s*True/, " ++
        "reason: \"debug server exposes an interactive console\" \x7d" }]
  languages := ["python"]
  fix := some {
    recommendation := "Read the debug flag from the environment and keep it off in production." }
  metadata := some {
    confidence := some (Binary64.ofDecimal false 9 (-1))
    cwe := some "CWE-489" }

def hardcodedSecret : Rule where
  id := "hardcoded-secret"
  name := "Hardcoded secret"
  description := "A credential or key is written directly in source code."
  severity := .high
  category := "secrets"
  patterns := [
    { kind := .regex, value :=
      "(?i)\\b(password|passwd|secret|secret_key|api_key|apikey|access_token|auth_token)" ++
        "\\s*[:=]\\s*[\"'][^\"'\\s]\x7b4,\x7d[\"']" },
    { kind := .regex, value := "AKIA[0-9A-Z]\x7b16\x7d" }]
  fix := some {
    recommendation := "Load secrets from the environment or a secret manager."
    before := some "API_KEY = \"sk-live-1234\""
    after := some "API_KEY = os.environ[\"API_KEY\"]" }
  metadata := some {
    confidence := some (Binary64.ofDecimal false 7 (-1))
    cwe := some "CWE-798"
    owasp := some "A07:2021 - Identification and Authentication Failures" }

def weakHash : Rule where
  id := "weak-hash"
  name := "Weak hash algorithm"
  description := "MD5 or SHA-1 is used where a collision-resistant hash is expected."
  severity := .medium
  category := "cryptography"
  patterns := [
    { kind := .regex, value := "hashlib\\.(md5|sha1)\\(" },
    { kind := .regex, value := "createHash\\(\\s*[\"'](md5|sha1)[\"']" }]
  fix := some {
    recommendation := "Use SHA-256 or better, and a dedicated password hash such as bcrypt or argon2 for passwords." }
  metadata := some {
    confidence := some (Binary64.ofDecimal false 8 (-1))
    cwe := some "CWE-328"
    owasp := some "A02:2021 - Cryptographic Failures" }

/-- The rules that are there without any rule file. -/
def rules : List Rule :=
  [evalInjection, sqlInjection, commandInjection, domXss, pathTraversal, jwtVerificationDisabled,
   insecureDeserialization, debugModeEnabled, hardcodedSecret, weakHash]

end SourceAudit.Builtin
