import UnifiedService.Library.JsString
import UnifiedService.Access.Vocabulary

/-! Addresses and secrets: how emails and mobiles are normalised, which requests
the contracts let through, and how secrets are hashed. What Unicode tables, the
phone library and the hash functions compute is a parameter. -/

set_option autoImplicit false

namespace UnifiedService.Access

open UnifiedService.Library

/-- What `libphonenumber` makes of a number it can parse. -/
structure PhoneNumber where
  number : String
  isValid : Bool
  country : Option String
  deriving DecidableEq, Repr

/-- What the runtime, the database's collation and the deployment decide. -/
structure Runtime where
  /-- `String.prototype.normalize('NFC')`. -/
  nfc : String → String
  toLowerCase : String → String
  toUpperCase : String → String
  lower : String → String
  parsePhoneNumber : String → Option String → Option PhoneNumber
  hashSecret : String → String
  /-- argon2id of a password under a random salt. -/
  hashPassword : String → String → String
  realtimeEnabled : Bool
  staticCode : String

/-- Stored addresses agree with the index on `lower(email)`: what the service has
lower-cased, the database leaves alone. -/
def Runtime.LowerAgrees (runtime : Runtime) : Prop :=
  ∀ text, runtime.lower (runtime.toLowerCase text) = runtime.toLowerCase text

/-- `INVISIBLE_PATTERN`. -/
def isInvisible (character : Char) : Bool :=
  let code := character.toNat
  (0x200b ≤ code && code ≤ 0x200d) || code == 0xfeff || code == 0x2060 || code == 0xad

def stripInvisible (text : String) : String :=
  String.ofList (text.toList.filter fun character => !isInvisible character)

def normalizeEmail (runtime : Runtime) (value : String) : String :=
  runtime.toLowerCase (jsTrim (stripInvisible (runtime.nfc value)))

/-- The pieces between the separators, as `String.prototype.split` cuts them. -/
def splitAt (separator : Char) : List Char → List (List Char)
  | [] => [[]]
  | character :: rest =>
      match splitAt separator rest with
      | [] => [[]]
      | piece :: pieces =>
          if character = separator then [] :: piece :: pieces
          else (character :: piece) :: pieces

/-- What the local part of `EMAIL_PATTERN` may hold. -/
def isLocalCharacter (character : Char) : Bool :=
  !isJsSpace character && !"@,;:<>\"()[]\\".toList.contains character

/-- `EMAIL_PATTERN`: one at sign, and a domain of at least two labels. -/
def matchesEmailPattern (text : String) : Bool :=
  match splitAt '@' text.toList with
  | [localPart, domain] =>
      !localPart.isEmpty && localPart.all isLocalCharacter &&
        decide (2 ≤ (splitAt '.' domain).length) &&
        (splitAt '.' domain).all fun label =>
          !label.isEmpty && label.all fun character => !isJsSpace character
  | _ => false

/-- A leading, trailing, or doubled dot in the local part is invalid unquoted. -/
def dotsAreInner (localPart : List Char) : Bool :=
  (splitAt '.' localPart).all fun piece => !piece.isEmpty

def isValidEmail (normalized : String) : Bool :=
  decide (3 ≤ jsLength normalized ∧ jsLength normalized ≤ 254) &&
    matchesEmailPattern normalized &&
    match splitAt '@' normalized.toList with
    | localPart :: domain :: _ =>
        decide (jsLength (String.ofList localPart) ≤ 64) &&
          decide (jsLength (String.ofList domain) ≤ 253) && dotsAreInner localPart
    | _ => false

structure MobileInput where
  number : String
  countryCode : Option String
  deriving DecidableEq, Repr

/-- The canonical E.164 form, the one value every lookup uses. A national number
needs its country. -/
def normalizeMobile (runtime : Runtime) (input : MobileInput) : Option String :=
  let raw := jsTrim (stripInvisible input.number)
  if raw = "" then none
  else
    let looksE164 := raw.startsWith "+"
    if !looksE164 && input.countryCode.all (·.isEmpty) then none
    else
      let parsed :=
        if looksE164 then runtime.parsePhoneNumber raw none
        else runtime.parsePhoneNumber raw (input.countryCode.map runtime.toUpperCase)
      match parsed with
      | none => none
      | some phone => if phone.isValid && phone.country.isSome then some phone.number else none

/-- `EmailSchema`, of the trimmed value it hands on. -/
def emailAccepted (runtime : Runtime) (email : String) : Bool :=
  jsTrim email == email && decide (3 ≤ jsLength email ∧ jsLength email ≤ 254) &&
    isValidEmail (runtime.toLowerCase email)

def isAsciiLetter (character : Char) : Bool :=
  character.isLower || character.isUpper

/-- `MobileInputSchema`. -/
def mobileAccepted (mobile : MobileInput) : Bool :=
  jsTrim mobile.number == mobile.number &&
    decide (4 ≤ jsLength mobile.number ∧ jsLength mobile.number ≤ 24) &&
    (mobile.countryCode.all fun country =>
      jsLength country == 2 && country.toList.all isAsciiLetter) &&
    (mobile.number.startsWith "+" || mobile.countryCode.isSome)

/-- `CreateEmployeeRequestSchema`, of the two credentials a request names. -/
def credentialsAccepted (runtime : Runtime) (email : Option String)
    (mobile : Option MobileInput) : Bool :=
  email.all (emailAccepted runtime) && mobile.all mobileAccepted &&
    (email.isSome || mobile.isSome)

example : isValidEmail "bob@example.com" = true := by decide +kernel

example : isValidEmail "bob..b@example.com" = false := by decide +kernel

def verifySecret (runtime : Runtime) (storedHash submitted : String) : Bool :=
  storedHash == runtime.hashSecret submitted

/-- Where a code comes from: random, or fixed while nothing is sent. A token is
always random. -/
def mintSecret (runtime : Runtime) (shape : VerificationSecretShape) (random : String) : String :=
  if runtime.realtimeEnabled || shape != .numericCode then random else runtime.staticCode

theorem Runtime.LowerAgrees.normalizeEmail {runtime : Runtime} (agrees : runtime.LowerAgrees)
    (value : String) :
    runtime.lower (normalizeEmail runtime value) = normalizeEmail runtime value :=
  agrees _

end UnifiedService.Access
