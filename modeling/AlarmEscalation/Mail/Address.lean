import AlarmEscalation.Mail.IpAddress
import AlarmEscalation.Text.Alphanumeric

/-!
E-mail addresses: a user and a domain, with the last `@` between them. The user is a sequence of
atoms with points between them, or a quoted text. The domain is a sequence of labels, an address
literal in brackets, or a bare IP address.

A message names its sender and its recipient in headers. A header takes a quoted user without its
quotes and knows neither literals nor addresses with colons, so that some addresses are lost there.
-/
namespace AlarmEscalation.Mail

/-- A character outside ASCII. -/
def isBeyondAscii (c : Char) : Bool := '\x80' ≤ c

/-- Characters of an atom. -/
def isAtomChar (c : Char) : Bool :=
  c.isAlphanum || "!#$%&\x27*+-/=?^_\x60\x7b|\x7d~".toList.contains c || isBeyondAscii c

def isAtom (text : List Char) : Bool := !text.isEmpty && text.all isAtomChar

def isDotAtom (text : List Char) : Bool := (text.splitOn '.').all isAtom

/-- Visible ASCII. -/
def isVisible (c : Char) : Bool := '!' ≤ c && c ≤ '~'

/-- The content of a quoted text: visible characters, blanks and characters outside ASCII, a
backslash before any visible character. -/
def isQuotedContent : List Char → Bool
  | [] => true
  | '\\' :: c :: rest => isVisible c && isQuotedContent rest
  | c :: rest =>
    (c = ' ' || c = '\t' || isVisible c && c ≠ '\x22' && c ≠ '\\' || isBeyondAscii c) &&
      isQuotedContent rest

def byteCount : List Char → Nat
  | [] => 0
  | c :: rest => c.utf8Size + byteCount rest

/-- What stands between two quotes. -/
def between? (left right : Char) (text : List Char) : Option (List Char) :=
  if text.head? = some left ∧ text.getLast? = some right then some text.tail.dropLast else none

def isUser (user : List Char) : Bool :=
  1 ≤ byteCount user && byteCount user ≤ 64 &&
    match between? '\x22' '\x22' user with
    | some content => 2 < user.length && isQuotedContent content
    | none => isDotAtom user

/-- Arrows, technical signs, dingbats and emoji. -/
def isPictograph (c : Char) : Bool :=
  '\u2190' ≤ c && c ≤ '\u2BFF' || 0x1F000 ≤ c.toNat && c.toNat ≤ 0x1FAFF

/-- Characters that a label may begin and end with. A pictograph stands there for the letters that
its label becomes when a server looks it up. -/
def isLabelEnd (c : Char) : Bool := Text.isAlphanumeric c || isPictograph c

def isLabel (label : List Char) : Bool :=
  label.head?.any isLabelEnd && label.getLast?.any isLabelEnd &&
    byteCount label ≤ 63 && isAtom label

/-- The content of an address literal. -/
def isLiteral (content : List Char) : Bool :=
  content.all fun c => isVisible c && c ≠ '[' && c ≠ '\\' && c ≠ ']' || isBeyondAscii c

def isDomainName (domain : List Char) : Bool := (domain.splitOn '.').all isLabel

def isDomain (domain : List Char) : Bool :=
  let sized := 1 ≤ byteCount domain && byteCount domain ≤ 254
  match between? '[' ']' domain with
  | some content => sized && isLiteral content || isIpv4 content || isIpv6 content
  | none => sized && isDomainName domain || isIpv4 domain || isIpv6 domain

structure Address where
  user : List Char
  domain : List Char
deriving DecidableEq, Repr

namespace Address

inductive Fault where
  | missingParts | invalidUser | invalidDomain
deriving DecidableEq, Repr

def Fault.message : Fault → String
  | .missingParts => "Missing domain or user"
  | .invalidUser => "Invalid email user"
  | .invalidDomain => "Invalid email domain"

/-- Splits at the last occurrence of a character. -/
def splitAtLast? (sep : Char) (text : List Char) : Option (List Char × List Char) :=
  let after := (text.reverse.takeWhile (· ≠ sep)).reverse
  if after.length = text.length then none
  else some (text.take (text.length - after.length - 1), after)

def parse (text : String) : Except Fault Address :=
  match splitAtLast? '@' text.toList with
  | none => .error .missingParts
  | some (user, domain) =>
    if !isUser user then .error .invalidUser
    else if !isDomain domain then .error .invalidDomain
    else .ok ⟨user, domain⟩

def written (a : Address) : String := String.ofList (a.user ++ '@' :: a.domain)

/-- The content of a quoted text, each backslash taken off. -/
def unescaped : List Char → List Char
  | '\\' :: c :: rest => c :: unescaped rest
  | c :: rest => c :: unescaped rest
  | [] => []

/-- The user as a header takes it: without quotes and without blanks at the end. -/
def headerUser (user : List Char) : List Char :=
  match between? '\x22' '\x22' user with
  | none => user
  | some content =>
    unescaped ((content.reverse.dropWhile fun c => c = ' ' || c = '\t').reverse)

/-- Whether the address can be read back from a header. -/
def survivesHeader (a : Address) : Bool :=
  isUser (headerUser a.user) && isDomainName a.domain

end Address

end AlarmEscalation.Mail
