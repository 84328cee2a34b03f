/- digest: Failure texts: validity of stored details and the sanitizer for untrusted text. -/

import Bridgefu.CallEngine.Domain

set_option autoImplicit false

namespace Bridgefu.CallEngine

def maxFailureCodeBytes : Nat := 64

def maxFailureMessageChars : Nat := 256

def isControl (c : Char) : Bool :=
  decide (c.toNat ≤ 0x1f) || (decide (0x7f ≤ c.toNat) && decide (c.toNat ≤ 0x9f))

/-- `char::is_whitespace`: the Unicode property White_Space. -/
def isWhitespace (c : Char) : Bool :=
  let n := c.toNat
  (decide (0x9 ≤ n) && decide (n ≤ 0xd)) || n == 0x20 || n == 0x85 || n == 0xa0 || n == 0x1680 ||
    (decide (0x2000 ≤ n) && decide (n ≤ 0x200a)) || n == 0x2028 || n == 0x2029 || n == 0x202f ||
    n == 0x205f || n == 0x3000

def isAsciiAlphanumeric (c : Char) : Bool :=
  (decide ('0' ≤ c) && decide (c ≤ '9')) || (decide ('a' ≤ c) && decide (c ≤ 'z')) ||
    (decide ('A' ≤ c) && decide (c ≤ 'Z'))

def trimMatches (test : Char → Bool) (text : List Char) : List Char :=
  ((text.dropWhile test).reverse.dropWhile test).reverse

def sanitizedCode (code : String) : List Char :=
  let mapped := code.toList.map fun c =>
    let lower := c.toLower
    if isAsciiAlphanumeric lower || lower == '.' || lower == '_' || lower == '-' then lower else '_'
  trimMatches (· == '_') (mapped.take maxFailureCodeBytes)

/-- The scanning loop of the message sanitizer. `safe` is the text pushed so far, newest
first, and the loop stops once it holds the maximal number of characters. -/
def sanitizeMessage : List Char → List Char → Bool → List Char
  | [], safe, _ => safe.reverse
  | c :: rest, safe, previousWhitespace =>
    let c := if isControl c then ' ' else c
    let pushed : List Char :=
      if isWhitespace c then
        if !previousWhitespace && !safe.isEmpty then ' ' :: safe else safe
      else c :: safe
    if pushed.length ≥ maxFailureMessageChars then pushed.reverse
    else sanitizeMessage rest pushed (isWhitespace c)

def FailureDetails.sanitized (code message : String) (retryable : Bool) : FailureDetails :=
  let safeCode := sanitizedCode code
  let safeMessage := trimMatches isWhitespace (sanitizeMessage message.toList [] false)
  { code := if safeCode.isEmpty then "unknown_failure" else String.ofList safeCode
    message := if safeMessage.isEmpty then "operation failed" else String.ofList safeMessage
    retryable := retryable }

end Bridgefu.CallEngine
