import MindscapeLocalCore.DurableState.Errors
import MindscapeLocalCore.Library.JsonText

/-!
Canonical JSON, hashing and signing for durable workflow records.  The
functions of the ambient libraries are fields of a `World`.
-/

namespace MindscapeLocalCore.DurableState.CanonicalJson

open Library.Guarded Library.Hex Library.Json Library.JsonText Errors

/-- What the package takes from the libraries around it: SHA-256, Ed25519
verification of an encoded signature, and the readers of time stamps. -/
structure World where
  sha256 : ByteArray → BitVec 256
  ed25519Verify : ByteArray → ByteArray → String → Bool
  fromisoformat : String → Bool
  timestamptz : String → Option Int

structure Signer where
  publicKey : ByteArray
  sign : ByteArray → BitVec 512

def maxInlineBytes : Nat := 16384

/-- The shortest decimal text of a float, in the notation of `repr`. -/
def floatText (negative : Bool) (digits : Nat) (exponent : Int) : String :=
  let text := (toString digits).toList
  let point : Int := exponent + text.length
  let body : List Char :=
    if point ≤ -4 ∨ 16 < point then
      let fraction := text.drop 1
      let e := point - 1
      let width := (toString e.natAbs).toList
      text.take 1 ++ (if fraction = [] then [] else '.' :: fraction) ++
        ['e', if e < 0 then '-' else '+'] ++
        (if width.length < 2 then '0' :: width else width)
    else if point ≤ 0 then
      ['0', '.'] ++ List.replicate (-point).toNat '0' ++ text
    else if (text.length : Int) ≤ point then
      text ++ List.replicate (point - text.length).toNat '0' ++ ['.', '0']
    else text.take point.toNat ++ '.' :: text.drop point.toNat
  String.ofList ((if negative then ['-'] else []) ++ body)

/-- The text of a float inside a JSONB value: the digits that `repr` wrote, but
never an exponent. -/
def numericText (negative : Bool) (digits : Nat) (exponent : Int) : String :=
  let text := (toString digits).toList
  let point : Int := exponent + text.length
  let body : List Char :=
    if point ≤ 0 then
      ['0', '.'] ++ List.replicate (-point).toNat '0' ++ text
    else if (text.length : Int) ≤ point then
      text ++ List.replicate (point - text.length).toNat '0' ++
        (if 16 < point then [] else ['.', '0'])
    else text.take point.toNat ++ '.' :: text.drop point.toNat
  String.ofList ((if negative then ['-'] else []) ++ body)

/-- `json.dumps(value, separators=(",", ":"), sort_keys=True)` -/
def canonical : Style where
  itemSeparator := ","
  keySeparator := ":"
  number
    | .int value => toString value
    | .float negative digits exponent => floatText negative digits exponent

def jsonbStyle : Style where
  itemSeparator := ", "
  keySeparator := ": "
  number
    | .int value => toString value
    | .float negative digits exponent => numericText negative digits exponent

/-- `octet_length(value::text)` of a JSONB column. -/
def octetLength (d : Dict) : Nat := (render jsonbStyle (.obj d)).utf8ByteSize

def encode (value : Json) : Check ByteArray :=
  let rendered := render canonical value
  if rendered.utf8ByteSize > maxInlineBytes then .error .canonicalPayload
  else .ok rendered.toUTF8

def hexdigest (digest : BitVec 256) : String :=
  String.ofList (hexText 64 digest.toNat)

def sha256Hex (world : World) (value : Json) : Check String := do
  let encoded ← encode value
  .ok (hexdigest (world.sha256 encoded))

def hexValue (c : Char) : Option Nat :=
  if '0' ≤ c ∧ c ≤ '9' then some (c.toNat - 48)
  else if 'a' ≤ c ∧ c ≤ 'f' then some (c.toNat - 87)
  else if 'A' ≤ c ∧ c ≤ 'F' then some (c.toNat - 55)
  else none

/-- `bytes.fromhex`, which skips white space between the bytes. -/
def fromHex : List Char → Option (List UInt8)
  | [] => some []
  | [c] => if c.isWhitespace then some [] else none
  | c :: d :: rest =>
      if c.isWhitespace then fromHex (d :: rest)
      else do
        let high ← hexValue c
        let low ← hexValue d
        let tail ← fromHex rest
        some (UInt8.ofNat (16 * high + low) :: tail)

def previousBytes (previousEventHash : Option String) : Check ByteArray :=
  match previousEventHash with
  | none => .ok ByteArray.empty
  | some text =>
      match fromHex text.toList with
      | some bytes => .ok (ByteArray.mk bytes.toArray)
      | none => .error (.valueError "non-hexadecimal number found in fromhex()")

def chainedHash (world : World) (previousEventHash : Option String)
    (eventCore : Json) : Check String := do
  let previous ← previousBytes previousEventHash
  let encoded ← encode eventCore
  .ok (hexdigest (world.sha256 (previous ++ encoded)))

/-! ## Signatures -/

def base64Digit (n : Nat) : Char :=
  if n < 26 then Char.ofNat (65 + n)
  else if n < 52 then Char.ofNat (71 + n)
  else if n < 62 then Char.ofNat (n - 4)
  else if n = 62 then '-'
  else '_'

def base64Url (signature : BitVec 512) : String :=
  String.ofList ((List.range 86).map fun i =>
    base64Digit (signature.toNat * 16 / 64 ^ (85 - i) % 64))

/-- `Ed25519Signer.sign` -/
def Signer.signature (signer : Signer) (payload : ByteArray) : String :=
  base64Url (signer.sign payload)

/-- `Ed25519Signer.key_id` -/
def Signer.keyId (signer : Signer) (world : World) : String :=
  "ed25519:" ++ hexdigest (world.sha256 signer.publicKey)

theorem length_base64Url (signature : BitVec 512) :
    (base64Url signature).length = 86 := by
  simp [base64Url]

/-! ## Sizes -/

theorem encode_eq_ok {value : Json} {bytes : ByteArray} :
    encode value = .ok bytes ↔
      size canonical value ≤ maxInlineBytes ∧
        bytes = (render canonical value).toUTF8 := by
  simp only [encode, render_utf8ByteSize]
  split <;> rename_i h
  · simp only [reduceCtorEq, false_iff, not_and]
    omega
  · simp only [Except.ok.injEq]
    constructor
    · rintro rfl
      exact ⟨by omega, rfl⟩
    · rintro ⟨-, rfl⟩
      rfl

theorem size_of_encode {value : Json} {bytes : ByteArray}
    (h : encode value = .ok bytes) : bytes.size = size canonical value := by
  obtain ⟨-, rfl⟩ := encode_eq_ok.mp h
  rw [← render_utf8ByteSize]
  rfl

theorem size_le_of_encode {value : Json} {bytes : ByteArray}
    (h : encode value = .ok bytes) : bytes.size ≤ maxInlineBytes := by
  rw [size_of_encode h]
  exact (encode_eq_ok.mp h).1

theorem sha256Hex_eq_ok {world : World} {value : Json} {digest : String} :
    sha256Hex world value = .ok digest ↔
      size canonical value ≤ maxInlineBytes ∧
        digest = hexdigest (world.sha256 (render canonical value).toUTF8) := by
  simp only [sha256Hex, bind_eq_ok, encode_eq_ok, Except.ok.injEq]
  constructor
  · rintro ⟨_, ⟨hsize, rfl⟩, rfl⟩
    exact ⟨hsize, rfl⟩
  · rintro ⟨hsize, rfl⟩
    exact ⟨_, ⟨hsize, rfl⟩, rfl⟩

theorem quoteSize_hexdigest (digest : BitVec 256) :
    quoteSize (hexdigest digest) = 66 := quoteSize_hexText 64 _

end MindscapeLocalCore.DurableState.CanonicalJson
