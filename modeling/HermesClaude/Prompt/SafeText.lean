/-
# Redacting prompt text

What `_safe_text` does to every text of a prompt: surrounding white space goes, whatever matches one
of three inline credential forms becomes a marker, and the rest is cut.

The first form is a credential's name, a colon or an equals sign, and a value; the second is
`Bearer` and a value; the third is an `sk-` key.
-/

import HermesClaude.Library.Replacement
import HermesClaude.Python.Patterns
import HermesClaude.Python.Stripping

namespace HermesClaude.Prompt

open HermesClaude.Library HermesClaude.Python HermesClaude.Python.Pattern

/-- The class `[^\s,;]`. -/
def isValueChar (c : CodePoint) : Bool := !c.isSpace && noneOf ",;" c

/-- The class `[A-Za-z0-9_-]` under `re.IGNORECASE`. -/
def isKeyChar (c : CodePoint) : Bool :=
  (0x61 ≤ c.asciiLower.val && c.asciiLower.val ≤ 0x7A) || (0x30 ≤ c.val && c.val ≤ 0x39) ||
    anyOf "_-" c || c == 0x130 || c == 0x131 || c == 0x17F || c == 0x212A

/-- `api[_ -]?key` -/
def apiKey : Pattern := .seq (word "api") (.seq (optional (.one (anyOf "_ -"))) (word "key"))

/-- `access[_ -]?token` -/
def accessToken : Pattern :=
  .seq (word "access") (.seq (optional (.one (anyOf "_ -"))) (word "token"))

/-- The names that introduce a value. -/
def sensitiveName : Pattern :=
  anyWord [apiKey, accessToken, word "authorization", word "cookie", word "credential",
    word "password", word "passwd", word "secret", word "token"]

/-- `\s*[:=]\s*[^\s,;]+` -/
def assignedValue : Pattern :=
  .seq (.repeated CodePoint.isSpace 0) (.seq (.one (anyOf ":=")) (.seq (.repeated CodePoint.isSpace 0)
    (.repeated isValueChar 1)))

/-- A credential's name and its value. -/
def namedCredential : Pattern :=
  .seq .boundary (.seq sensitiveName (.seq .boundary assignedValue))

/-- `\s+[^\s,;]+` -/
def bearerValue : Pattern := .seq (.repeated CodePoint.isSpace 1) (.repeated isValueChar 1)

/-- `\bBearer\s+[^\s,;]+` -/
def bearerCredential : Pattern := .seq .boundary (.seq (word "Bearer") bearerValue)

/-- `\bsk-[A-Za-z0-9_-]{8,}` -/
def keyCredential : Pattern := .seq .boundary (.seq (word "sk-") (.repeated isKeyChar 8))

/-- `_SENSITIVE_VALUE_RE`. -/
def sensitiveValue : Pattern := .alt namedCredential (.alt bearerCredential keyCredential)

/-- `_SENSITIVE_KEY_RE`. -/
def sensitiveKey : Pattern :=
  anyWord [apiKey, accessToken, .seq (word "auth") (optional (word "orization")), word "cookie",
    word "credential", word "password", word "passwd", word "secret", word "token"]

/-- `text.replace("\x00", "")`. -/
def withoutNul (text : PyStr) : PyStr := text.filter (· ≠ 0)

variable (unicode : WordDatabase)

/-- `_SENSITIVE_VALUE_RE.sub("[redacted]", text)`. -/
def redact (text : PyStr) : PyStr := Regex.sub unicode.isWord sensitiveValue (lit "[redacted]") text

/-- `_safe_text` of a text. -/
def safeText (value : PyStr) (limit : Int) : PyStr :=
  if limit ≤ 0 then [] else (redact unicode (strip (withoutNul value))).take limit.toNat

/-! ## The pattern -/

theorem nonempty_sensitiveValue : sensitiveValue.nonempty = true := by decide

theorem settled_sensitiveName : Regex.Settled sensitiveName := by
  have hjoined (a b : String) :
      Regex.Settled (.seq (word a) (.seq (optional (.one (anyOf "_ -"))) (word b))) :=
    .seq (settled_letters _) (.seq (settled_optional (.one _)) (settled_letters _))
  apply settled_anyWord
  simp only [List.forall_mem_cons, List.not_mem_nil, false_implies, implies_true, and_true]
  exact ⟨hjoined _ _, hjoined _ _, settled_letters _, settled_letters _, settled_letters _,
    settled_letters _, settled_letters _, settled_letters _, settled_letters _⟩

theorem settled_sensitiveValue : Regex.Settled sensitiveValue := by
  have hassigned : Regex.Settled assignedValue :=
    .seq (.repeated _ _) (.seq (.one _) (.seq (.repeated _ _) (.repeated _ _)))
  have hnamed : Regex.Settled (.seq sensitiveName (.seq .boundary assignedValue)) :=
    .seq settled_sensitiveName (.guarded hassigned (by decide))
  have hbearer : Regex.Settled (.seq (word "Bearer") bearerValue) :=
    .seq (settled_letters _) (.seq (.repeated _ _) (.repeated _ _))
  have hkey : Regex.Settled (.seq (word "sk-") (.repeated isKeyChar 8)) :=
    .seq (settled_letters _) (.repeated _ _)
  exact .alt (.guarded hnamed (by decide)) (.alt (.guarded hbearer (by decide)) (.guarded hkey (by decide)))

end HermesClaude.Prompt
