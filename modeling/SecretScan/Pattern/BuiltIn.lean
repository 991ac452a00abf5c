import SecretScan.Pattern.Source

/-!
# Built-in patterns

The pattern lines that are used where no files take their place.
-/

namespace SecretScan.Pattern.BuiltIn

/-- A source of lines, each of which ends with a line feed. -/
def source (name : String) (lines : List String) : Source :=
  .data name (Utf8.encode (lines.flatMap fun line => line.toList ++ ['\n']))

/-- Patterns that are precise enough for both the fast and the strict stage. -/
def directLines : List String :=
  [r"# Matches here are precise enough to be used by both the fast and the strict",
   r"# stage. Keep each pattern on a single line.",
   r"#",
   r"# Private key material",
   r"-----BEGIN ((RSA|DSA|EC|OPENSSH|PGP|ENCRYPTED) )?PRIVATE KEY( BLOCK)?-----",
   r"# AWS access key ids",
   r"\b(AKIA|ASIA|AGPA|AIDA|AROA|ANPA|ANVA|AIPA)[0-9A-Z]{16}\b",
   r"# GitHub tokens",
   r"\bgh[pousr]_[A-Za-z0-9]{36,255}\b",
   r"\bgithub_pat_[A-Za-z0-9_]{82}\b",
   r"# Slack tokens and webhooks",
   r"\bxox[abposr]-[A-Za-z0-9-]{10,72}",
   r"https://hooks\.slack\.com/services/T[A-Za-z0-9]+/B[A-Za-z0-9]+/[A-Za-z0-9]+",
   r"# Stripe live keys",
   r"\b[rs]k_live_[0-9A-Za-z]{24,99}\b",
   r"# Google API keys",
   r"\bAIza[0-9A-Za-z_-]{35}\b"]

/-- Patterns that are precise enough for both the fast and the strict stage. -/
def direct : Source := source "direct_matches.regex" directLines

/-- Broad patterns that admit lines to the strict stage. -/
def fastLines : List String :=
  [r"# Broad screens. A line must match one of these before the strict patterns",
   r"# are tried, so recall matters more than precision here.",
   r"(?i)(passw(or)?d|passwd|pwd|secret|token|api[_-]?key|access[_-]?key|client[_-]?secret|credential)",
   r"(?i)[a-z][a-z0-9+.-]*://[^\\s:/@]+:[^\\s@/]+@"]

/-- Broad patterns that admit lines to the strict stage. -/
def fast : Source := source "fast_patterns.regex" fastLines

/-- Patterns that extract secrets. -/
def strictLines : List String :=
  [r"# Strict patterns extract the secret span from lines admitted by the fast",
   r"# stage. They are written with legacy shell-style escaping.",
   r"#",
   r#"# Keyword assigned a quoted value: password = "...", "api_key": '...'"#,
   r#"(?i)[a-z0-9_.-]*(passw(or)?d|passwd|pwd|secret|token|api[_-]?key|access[_-]?key|client[_-]?secret|credential)[a-z0-9_.-]*[\"']?\\s*(:=|=>|[:=])\\s*[\"'][^\"'\\s]{4,}[\"']"#,
   r"# Keyword assigned an unquoted value: DB_PASSWORD=hunter22",
   r#"(?i)\\b[a-z0-9_]*(password|passwd|secret|token|api_?key)[a-z0-9_]*=[^\\s\"'$]{6,}"#,
   r"# Credentials embedded in a connection string",
   r"(?i)[a-z][a-z0-9+.-]*://[^\\s:/@]+:[^\\s@/]+@[^\\s/]+"]

/-- Patterns that extract secrets. -/
def strict : Source := source "strict_patterns.regex" strictLines

/-- Patterns of harmless lines. -/
def excludeLines : List String :=
  [r"# Lines matching any of these are discarded even when the fast and strict",
   r"# stages both matched. They are applied to the whole line.",
   r"#",
   r"# Placeholder values",
   r#"(?i)[:=]\\s*[\"']?(changeme|change_me|password|your[_-]?[a-z_-]*|x{3,}|\\*{3,}|dummy|example|placeholder|redacted|todo|null|none|undefined)[\"']?\\s*[,;]?\\s*$"#,
   r"# Template and shell interpolation",
   r"\$\{[^}]*\}",
   r"\{\{[^}]*\}\}",
   r#"[:=]\s*[\"']?<[A-Za-z_-]+>"#,
   r"# Values read from the environment",
   r"(?i)(os\.getenv|os\.environ|process\.env|System\.getenv|ENV\[)",
   r"# Type annotations rather than values",
   r"(?i)(password|secret|token)\s*:\s*(str|string|bool|int|number)\b",
   r"# Documentation hosts",
   r"(?i)@(example\.(com|org|net)|localhost)\b"]

/-- Patterns of harmless lines. -/
def exclude : Source := source "exclude_patterns.regex" excludeLines

end SecretScan.Pattern.BuiltIn
