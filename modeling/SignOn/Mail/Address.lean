import SignOn.Net.Domain
import SignOn.Net.IpAddress
/-!
Email addresses in requests. Which texts pass for addresses is not for the service to say: it relies
on a rule, of which it knows that whatever passes has an at sign. The rule in use is the one of web
forms: a local part of letters, digits and some signs, an at sign, and a domain, which is a chain of
host labels, an address in brackets, or a name that becomes one of these once it is written in
ASCII.
-/

namespace SignOn.Mail

open SignOn.Text SignOn.Net.Idna

/-- A rule that tells which texts pass for email addresses. -/
structure AddressRule where
  accepts : String → Bool
  /-- Whatever passes has an at sign. -/
  at_mem : ∀ text, accepts text = true → '@' ∈ text.toList

/-- An ASCII letter or digit. -/
def isAlphanumeric (c : Char) : Bool :=
  ('a' ≤ c && c ≤ 'z') || ('A' ≤ c && c ≤ 'Z') || ('0' ≤ c && c ≤ '9')

/-- The signs that a local part may hold besides letters and digits. -/
def localSigns : List Char :=
  ['.', '!', '#', '$', '%', '&', '\'', '*', '+', '/', '=', '?', '^', '_', '\x60', '\x7b', '|',
    '\x7d', '~', '-']

/-- The part in front of the at sign. -/
def isLocalPart (cs : List Char) : Bool :=
  !cs.isEmpty && cs.all fun c => isAlphanumeric c || localSigns.contains c

/-- A host label: up to 63 letters, digits and hyphens, with no hyphen at either end. -/
def isHostLabel (cs : List Char) : Bool :=
  cs.length ≤ 63 && cs.all (fun c => isAlphanumeric c || c == '-') && cs.head?.any isAlphanumeric &&
  cs.getLast?.any isAlphanumeric

/-- Host labels between dots. -/
def isHostName (cs : List Char) : Bool := (pieces (· == '.') cs).all isHostLabel

/-- An address in brackets at the end of the domain. -/
def endsWithAddress (cs : List Char) : Bool :=
  match cs.reverse with
  | ']' :: front =>
    match splitAtLast? (· == '[') front.reverse with
    | some (_, inner) =>
      !inner.isEmpty && inner.all (fun c => isHexDigit c || c == ':' || c == '.') &&
      (IpAddress.parse? inner).isSome
    | none => false
  | _ => false

/-- A domain in ASCII. -/
def isDomain (cs : List Char) : Bool := isHostName cs || endsWithAddress cs

/-- Whether the text is an email address. -/
def isAddress (cs : List Char) : Bool :=
  match splitAtLast? (· == '@') cs with
  | none => false
  | some (front, domain) =>
    front.length ≤ 64 && domain.length ≤ 255 && isLocalPart front &&
    (isDomain domain || (toAscii? (fun _ => false) domain).any isDomain)

theorem at_mem_of_isAddress {cs : List Char} (h : isAddress cs = true) : '@' ∈ cs := by
  unfold isAddress at h
  split at h
  · cases h
  · next front domain hsplit =>
    obtain ⟨c, hc, hat⟩ := any_of_splitAtLast? hsplit
    rwa [beq_iff_eq.1 hat] at hc

/-- The rule in use. -/
def AddressRule.standard : AddressRule where
  accepts text := isAddress text.toList
  at_mem _ h := at_mem_of_isAddress h

/-- A text without any character is no address. -/
theorem AddressRule.accepts_empty (rule : AddressRule) : rule.accepts "" = false :=
  Bool.eq_false_iff.2 fun h => List.not_mem_nil (rule.at_mem "" h)

end SignOn.Mail
