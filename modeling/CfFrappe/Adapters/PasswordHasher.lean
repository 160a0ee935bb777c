import CfFrappe.Core.JsonText
import CfFrappe.Core.Streams
import CfFrappe.Core.Types
import CfFrappe.Lib.Base64

set_option autoImplicit false

/-! # Password hashes

A stored password is a text of four segments, the parameters of PBKDF2 and its output, or of five where the
output was wrapped with the secret of a pepper. The text has what verifying it takes, so a hasher with another
configuration verifies it as well, as long as it holds the pepper (`hash_verifies`).

* `parseHash_written` reads a text back as what it was written from: base64url without padding, decimal iterations and
  a plain identifier hold no separator.
* `verify_written` is the comparison that verifying comes down to: the key of the stored password with the key of the
  one that is tried.
* Two things of the platform show. `TextEncoder` has one encoding for all unpaired surrogates, and the length that
  PBKDF2 is asked for is a number of bits of 32 bits, so an output of `2 ^ 29` bytes or more is another one
  (`verify_replacement`).
-/

open Utf Base64

namespace PasswordHasher

def dollar : UInt16 := 0x24

/-! ## The platform -/

/-- What Web Crypto computes. Which iterations and lengths it accepts is up to the platform. -/
structure WebCrypto where
  accepts : Nat → Nat → Bool
  /-- PBKDF2 with SHA-256: the password, the salt, the iterations and the length in bits -/
  deriveBits : List UInt8 → List UInt8 → Nat → Nat → List UInt8
  /-- HMAC with SHA-256: the key and the message -/
  sign : List UInt8 → List UInt8 → List UInt8
  length_deriveBits : ∀ password salt iterations length, (deriveBits password salt iterations length).length = length / 8
  length_sign : ∀ key message, (sign key message).length = 32

/-- `new TextEncoder().encode(text)`. -/
def encodeText (text : JsString) : List UInt8 := (textEncode text).map UInt8.ofNat

/-! ## Configurations -/

structure PasswordPepper where
  id : JsString
  secret : JsString
  deriving DecidableEq

/-- A machine-facing identifier: `/^[A-Za-z_][A-Za-z0-9_]*$/`. -/
def isPlainIdentifier : JsString → Bool
  | [] => false
  | u :: rest =>
    (isAsciiLetter u || u == 0x5F) && rest.all (fun c => isAsciiLetter c || isAsciiDigit c || c == 0x5F)

structure WebCryptoPbkdf2PasswordHasherOptions where
  iterations : Option Rat := none
  saltBytes : Option Rat := none
  hashBytes : Option Rat := none
  pepper : Option PasswordPepper := none
  previousPeppers : Option (List PasswordPepper) := none

def WebCryptoPbkdf2PasswordHasherOptions.peppers (options : WebCryptoPbkdf2PasswordHasherOptions) :
    List PasswordPepper := options.pepper.toList ++ options.previousPeppers.getD []

/-- A configuration that the constructor has checked. -/
structure Hasher where
  iterations : Nat
  saltBytes : Nat
  hashBytes : Nat
  pepper : Option PasswordPepper
  previousPeppers : List PasswordPepper
  iterations_pos : 0 < iterations
  saltBytes_pos : 0 < saltBytes
  hashBytes_pos : 0 < hashBytes
  plain : ∀ candidate ∈ pepper.toList ++ previousPeppers, isPlainIdentifier candidate.id = true
  deriving DecidableEq

def Hasher.peppers (hasher : Hasher) : List PasswordPepper := hasher.pepper.toList ++ hasher.previousPeppers

/-- `ensurePositiveInteger`, with the number it has checked. -/
def ensurePositiveInteger (value : Rat) (label : JsString) : Except JsString { n : Nat // 0 < n } :=
  if h : value.den = 1 ∧ 1 ≤ value then
    .ok ⟨value.num.toNat, by
      have hnum : 0 < value.num := Rat.num_pos.mpr (lt_of_lt_of_le one_pos h.2)
      omega⟩
  else .error (label ++ js " must be a positive integer")

def ensurePepperIds (peppers : List PasswordPepper) :
    Except JsString { _u : Unit // ∀ candidate ∈ peppers, isPlainIdentifier candidate.id = true } :=
  match h : peppers.find? (fun candidate => !isPlainIdentifier candidate.id) with
  | some candidate =>
    .error (js "Password pepper id must be a plain identifier: '" ++ candidate.id ++ js "'")
  | none => .ok ⟨(), fun candidate hmem => by simpa using List.find?_eq_none.mp h candidate hmem⟩

def webCryptoPbkdf2PasswordHasher (options : WebCryptoPbkdf2PasswordHasherOptions) : Except JsString Hasher := do
  let iterations ← ensurePositiveInteger (options.iterations.getD 600000) (js "PBKDF2 iterations")
  let saltBytes ← ensurePositiveInteger (options.saltBytes.getD 16) (js "PBKDF2 salt bytes")
  let hashBytes ← ensurePositiveInteger (options.hashBytes.getD 32) (js "PBKDF2 hash bytes")
  let previousPeppers := options.previousPeppers.getD []
  let plain ← ensurePepperIds (options.pepper.toList ++ previousPeppers)
  return {
    iterations := iterations.val
    saltBytes := saltBytes.val
    hashBytes := hashBytes.val
    pepper := options.pepper
    previousPeppers
    iterations_pos := iterations.property
    saltBytes_pos := saltBytes.property
    hashBytes_pos := hashBytes.property
    plain := plain.property }

theorem ensurePositiveInteger_ok {value : Rat} {label : JsString} {n : { n : Nat // 0 < n }}
    (h : ensurePositiveInteger value label = .ok n) : (n.val : Rat) = value := by
  unfold ensurePositiveInteger at h
  split at h
  case isFalse => cases h
  case isTrue hvalue =>
    obtain rfl := Except.ok.inj h
    have hnum : 0 < value.num := Rat.num_pos.mpr (lt_of_lt_of_le one_pos hvalue.2)
    have htoNat : ((value.num.toNat : Int) : Rat) = value.num := by rw [Int.toNat_of_nonneg hnum.le]
    calc ((value.num.toNat : Nat) : Rat) = value.num := by exact_mod_cast htoNat
      _ = value := Rat.coe_int_num_of_den_eq_one hvalue.1

/-- What the constructor makes of its options. -/
structure Hasher.Of (options : WebCryptoPbkdf2PasswordHasherOptions) (hasher : Hasher) : Prop where
  iterations : (hasher.iterations : Rat) = options.iterations.getD 600000
  saltBytes : (hasher.saltBytes : Rat) = options.saltBytes.getD 16
  hashBytes : (hasher.hashBytes : Rat) = options.hashBytes.getD 32
  pepper : hasher.pepper = options.pepper
  peppers : hasher.peppers = options.peppers

theorem webCryptoPbkdf2PasswordHasher_ok {options : WebCryptoPbkdf2PasswordHasherOptions} {hasher : Hasher}
    (h : webCryptoPbkdf2PasswordHasher options = .ok hasher) : hasher.Of options := by
  unfold webCryptoPbkdf2PasswordHasher at h
  obtain ⟨iterations, hiterations, h⟩ := except_bind_eq_ok h
  obtain ⟨saltBytes, hsaltBytes, h⟩ := except_bind_eq_ok h
  obtain ⟨hashBytes, hhashBytes, h⟩ := except_bind_eq_ok h
  obtain ⟨plain, hplain, h⟩ := except_bind_eq_ok h
  obtain rfl := Except.ok.inj h
  exact ⟨ensurePositiveInteger_ok hiterations, ensurePositiveInteger_ok hsaltBytes, ensurePositiveInteger_ok hhashBytes,
    rfl, rfl⟩

/-! ## Texts of bytes -/

def base64UrlEncode (bytes : List UInt8) : JsString :=
  ((btoa bytes).map (fun u => if u = 0x2B then 0x2D else if u = 0x2F then 0x5F else u)).filter (· ≠ padUnit)

/-- `none` is the exception of `atob`. -/
def base64UrlDecode (value : JsString) : Option (List UInt8) :=
  let normalized := value.map (fun u => if u = 0x2D then 0x2B else if u = 0x5F then 0x2F else u)
  atob (normalized ++ List.replicate (lacking normalized.length) padUnit)

/-! ## Hashes -/

def FORMAT : JsString := js "pbkdf2-sha256"

def PEPPERED_KDF_BYTES : Nat := 32

def kdfBytesFor (pepper : Option PasswordPepper) (hashBytes : Nat) : Nat :=
  if pepper = none then hashBytes else PEPPERED_KDF_BYTES

def pepperSuffix : Option PasswordPepper → JsString
  | none => []
  | some pepper => dollar :: pepper.id

section

variable (crypto : WebCrypto)

/-- The number of bits, `hashBytes * 8` as an unsigned long. -/
def bitLength (hashBytes : Nat) : Nat := hashBytes * 8 % 2 ^ 32

/-- `none` is a rejection. The iterations have to be an unsigned long, the number of bits is made one. -/
def derivePbkdf2 (password : JsString) (salt : List UInt8) (iterations hashBytes : Nat) : Option (List UInt8) :=
  if iterations < 2 ^ 32 ∧ crypto.accepts iterations (bitLength hashBytes) then
    some (crypto.deriveBits (encodeText password) salt iterations (bitLength hashBytes))
  else none

/-- An empty key is rejected. -/
def applyPepper (derived : List UInt8) (pepper : Option PasswordPepper) : Option (List UInt8) :=
  match pepper with
  | none => some derived
  | some pepper =>
    if encodeText pepper.secret = [] then none else some (crypto.sign (encodeText pepper.secret) derived)

/-- `hash(password)`, with the random salt. -/
def hash (hasher : Hasher) (password : JsString) (salt : List UInt8) : Option JsString := do
  let derived ← derivePbkdf2 crypto password salt hasher.iterations (kdfBytesFor hasher.pepper hasher.hashBytes)
  let wrapped ← applyPepper crypto derived hasher.pepper
  return FORMAT ++ dollar :: (Json.numberToString hasher.iterations ++ dollar ::
    (base64UrlEncode salt ++ dollar :: (base64UrlEncode wrapped ++ pepperSuffix hasher.pepper)))

structure ParsedHash where
  iterations : Nat
  salt : List UInt8
  hash : List UInt8
  pepperId : Option JsString
  deriving DecidableEq

def parseSegments (iterationsValue saltValue hashValue : JsString) (pepperId : Option JsString) : Option ParsedHash := do
  let iterations ← Json.toNumber iterationsValue
  if iterations.den = 1 ∧ 1 ≤ iterations then
    let salt ← base64UrlDecode saltValue
    let hash ← base64UrlDecode hashValue
    return { iterations := iterations.num.toNat, salt, hash, pepperId }
  else none

def parseHash (value : JsString) : Option ParsedHash :=
  match value.splitOn dollar with
  | format :: iterationsValue :: saltValue :: hashValue :: rest =>
    if format ≠ FORMAT ∨ iterationsValue = [] ∨ saltValue = [] ∨ hashValue = [] then none
    else
      match rest with
      | [] => parseSegments iterationsValue saltValue hashValue none
      | [pepperId] =>
        if isPlainIdentifier pepperId then parseSegments iterationsValue saltValue hashValue (some pepperId)
        else none
      | _ => none
  | _ => none

/-- Lengths are compared as integers of 32 bits; a byte that is missing is 0. -/
def timingSafeEqual (left right : List UInt8) : Bool :=
  let start := (left.length % 2 ^ 32) ^^^ (right.length % 2 ^ 32)
  let diff := (List.range (max left.length right.length)).foldl
    (fun diff index => diff ||| (((left[index]?).getD 0).toNat ^^^ ((right[index]?).getD 0).toNat)) start
  diff = 0

/-- The peppers in the order in which they are tried, and none. -/
def Hasher.verifyCandidates (hasher : Hasher) : List (Option PasswordPepper) :=
  hasher.pepper.toList.map some ++ hasher.previousPeppers.map some ++ [none]

def verify (hasher : Hasher) (password encodedHash : JsString) : Option Bool :=
  match parseHash encodedHash with
  | none => some false
  | some parsed =>
    let candidate := (hasher.verifyCandidates.find? (fun entry => entry.map PasswordPepper.id = parsed.pepperId)).join
    if parsed.pepperId ≠ none ∧ candidate = none then some false
    else do
      let derived ← derivePbkdf2 crypto password parsed.salt parsed.iterations
        (if parsed.pepperId = none then parsed.hash.length else PEPPERED_KDF_BYTES)
      let wrapped ← applyPepper crypto derived candidate
      return timingSafeEqual wrapped parsed.hash

def needsRehash (hasher : Hasher) (encodedHash : JsString) : Bool :=
  match parseHash encodedHash with
  | none => false
  | some parsed =>
    if parsed.pepperId ≠ hasher.pepper.map PasswordPepper.id then true
    else if parsed.iterations < hasher.iterations then true
    else parsed.pepperId = none && parsed.hash.length ≠ hasher.hashBytes

end

/-! ## Reading the text back -/

theorem urlDigit_spec : ∀ n < 64,
    let u := if digit n = 0x2B then 0x2D else if digit n = 0x2F then 0x5F else digit n
    u ≠ padUnit ∧ u ≠ dollar ∧ (if u = 0x2D then 0x2B else if u = 0x5F then 0x2F else u) = digit n := by
  decide +kernel

theorem base64UrlEncode_eq (bytes : List UInt8) :
    base64UrlEncode bytes =
      (sextets bytes).map (fun n => if digit n = 0x2B then 0x2D else if digit n = 0x2F then 0x5F else digit n) := by
  unfold base64UrlEncode btoa
  rw [List.map_append, List.map_replicate, List.filter_append, List.map_map]
  have hpadding : (List.replicate (lacking (sextets bytes).length)
      (if padUnit = 0x2B then 0x2D else if padUnit = 0x2F then 0x5F else padUnit)).filter (· ≠ padUnit) = [] := by
    rw [List.filter_eq_nil_iff]
    intro u hu
    rw [List.eq_of_mem_replicate hu]
    decide
  rw [hpadding, List.append_nil]
  refine List.filter_eq_self.mpr (fun u hu => ?_)
  obtain ⟨n, hn, rfl⟩ := List.mem_map.mp hu
  exact decide_eq_true (urlDigit_spec n (sextets_lt bytes n hn)).1

/-- **Bytes are read back from their text.** -/
theorem base64UrlDecode_encode (bytes : List UInt8) : base64UrlDecode (base64UrlEncode bytes) = some bytes := by
  unfold base64UrlDecode
  have hnormalized : (base64UrlEncode bytes).map (fun u => if u = 0x2D then 0x2B else if u = 0x5F then 0x2F else u) =
      (sextets bytes).map digit := by
    rw [base64UrlEncode_eq, List.map_map]
    refine List.map_congr_left (fun n hn => ?_)
    exact (urlDigit_spec n (sextets_lt bytes n hn)).2.2
  rw [hnormalized]
  dsimp only
  rw [List.length_map, atob_padded (sextets_lt bytes) (length_sextets_mod bytes), ofSextets_sextets]

theorem dollar_notMem_base64UrlEncode (bytes : List UInt8) : dollar ∉ base64UrlEncode bytes := by
  rw [base64UrlEncode_eq]
  intro hdollar
  obtain ⟨n, hn, hu⟩ := List.mem_map.mp hdollar
  exact (urlDigit_spec n (sextets_lt bytes n hn)).2.1 hu

theorem base64UrlEncode_ne_nil {bytes : List UInt8} (h : bytes ≠ []) : base64UrlEncode bytes ≠ [] := by
  rw [base64UrlEncode_eq, ne_eq, List.map_eq_nil_iff]
  exact sextets_ne_nil h

theorem dollar_notMem_numberToString (value : Rat) : dollar ∉ Json.numberToString value := by
  intro hdollar
  rw [Json.numberToString_eq] at hdollar
  rcases List.mem_append.mp hdollar with hsign | hunits
  · split at hsign
    · exact absurd (List.mem_singleton.mp hsign) (by decide)
    · exact absurd hsign List.not_mem_nil
  · have hunit := Json.toNat_of_isNumberUnit (Json.isNumberUnit_of_mem_unsignedText hunits)
    have hdollarNat : dollar.toNat = 0x24 := rfl
    omega

theorem dollar_notMem_of_isPlainIdentifier {id : JsString} (h : isPlainIdentifier id = true) : dollar ∉ id := by
  have hunit : (isAsciiLetter dollar || dollar == 0x5F) = false ∧
      (isAsciiLetter dollar || isAsciiDigit dollar || dollar == 0x5F) = false := by decide
  cases id with
  | nil => exact List.not_mem_nil
  | cons u rest =>
    rw [isPlainIdentifier, Bool.and_eq_true, List.all_eq_true] at h
    intro hdollar
    rcases List.mem_cons.mp hdollar with rfl | hdollar
    · rw [hunit.1] at h
      exact absurd h.1 Bool.false_ne_true
    · have hrest := h.2 dollar hdollar
      rw [hunit.2] at hrest
      cases hrest

theorem isDecimal_natCast (n : Nat) : Json.IsDecimal (n : Rat) :=
  ⟨0, by decide, by rw [Rat.den_natCast]; exact Nat.mod_one _⟩

/-- Segments that are written are read. -/
theorem parseSegments_written {iterations : Nat} (hiterations : 0 < iterations) (salt hash : List UInt8)
    (pepperId : Option JsString) :
    parseSegments (Json.numberToString iterations) (base64UrlEncode salt) (base64UrlEncode hash) pepperId =
      some { iterations, salt, hash, pepperId } := by
  have hpositive : ((iterations : Rat).den = 1 ∧ 1 ≤ (iterations : Rat)) := by
    refine ⟨Rat.den_natCast iterations, ?_⟩
    exact_mod_cast hiterations
  unfold parseSegments
  rw [Json.toNumber_numberToString (isDecimal_natCast iterations)]
  change (if (iterations : Rat).den = 1 ∧ 1 ≤ (iterations : Rat) then _ else none) = _
  rw [if_pos hpositive, base64UrlDecode_encode, base64UrlDecode_encode]
  simp

/-- **A text that a hasher wrote is read as what it was written from.** -/
theorem parseHash_written {iterations : Nat} (hiterations : 0 < iterations) {salt wrapped : List UInt8}
    (hsalt : salt ≠ []) (hwrapped : wrapped ≠ []) {pepper : Option PasswordPepper}
    (hplain : ∀ candidate ∈ pepper, isPlainIdentifier candidate.id = true) :
    parseHash (FORMAT ++ dollar :: (Json.numberToString iterations ++ dollar :: (base64UrlEncode salt ++ dollar ::
        (base64UrlEncode wrapped ++ pepperSuffix pepper)))) =
      some { iterations, salt, hash := wrapped, pepperId := pepper.map PasswordPepper.id } := by
  have hformat : dollar ∉ FORMAT := by decide +kernel
  have hpresent : ¬(FORMAT ≠ FORMAT ∨ Json.numberToString (iterations : Rat) = [] ∨ base64UrlEncode salt = [] ∨
      base64UrlEncode wrapped = []) := by
    rintro (h | h | h | h)
    · exact h rfl
    · exact Json.numberToString_ne_nil _ h
    · exact base64UrlEncode_ne_nil hsalt h
    · exact base64UrlEncode_ne_nil hwrapped h
  unfold parseHash
  rw [List.splitOn_append_cons_self_of_not_mem hformat,
    List.splitOn_append_cons_self_of_not_mem (dollar_notMem_numberToString iterations),
    List.splitOn_append_cons_self_of_not_mem (dollar_notMem_base64UrlEncode salt)]
  cases pepper with
  | none =>
    rw [pepperSuffix, List.append_nil, List.splitOn_eq_singleton (dollar_notMem_base64UrlEncode wrapped)]
    dsimp only
    rw [if_neg hpresent]
    exact parseSegments_written hiterations salt wrapped none
  | some pepper =>
    have hid : isPlainIdentifier pepper.id = true := hplain pepper rfl
    rw [pepperSuffix, List.splitOn_append_cons_self_of_not_mem (dollar_notMem_base64UrlEncode wrapped),
      List.splitOn_eq_singleton (dollar_notMem_of_isPlainIdentifier hid)]
    dsimp only
    rw [if_neg hpresent, if_pos hid]
    exact parseSegments_written hiterations salt wrapped (some pepper.id)

/-! ## Comparing bytes -/

theorem foldl_or_eq_zero {α : Type} (f : α → Nat) (l : List α) (start : Nat) :
    l.foldl (fun diff x => diff ||| f x) start = 0 ↔ start = 0 ∧ ∀ x ∈ l, f x = 0 := by
  induction l generalizing start with
  | nil => simp
  | cons x l ih => rw [List.foldl_cons, ih, Nat.or_eq_zero_iff, List.forall_mem_cons, and_assoc]

/-- Bytes of one length are compared as they are. -/
theorem timingSafeEqual_iff {left right : List UInt8} (h : left.length = right.length) :
    timingSafeEqual left right = true ↔ left = right := by
  unfold timingSafeEqual
  dsimp only
  rw [decide_eq_true_eq, foldl_or_eq_zero, h, Nat.xor_self, and_iff_right rfl, Nat.max_self]
  constructor
  · intro hbytes
    refine List.ext_getElem h (fun index hleft hright => ?_)
    have hbyte := hbytes index (List.mem_range.mpr hright)
    rw [Nat.xor_eq_zero_iff, UInt8.toNat_inj, List.getElem?_eq_getElem hleft,
      List.getElem?_eq_getElem hright] at hbyte
    exact hbyte
  · rintro rfl index -
    exact Nat.xor_self _

/-! ## Verifying what a hasher wrote -/

section

variable (crypto : WebCrypto) (hasher : Hasher) (password : JsString) (salt : List UInt8)

/-- The key of a password that a hasher derives. -/
def derivedKey : List UInt8 :=
  crypto.deriveBits (encodeText password) salt hasher.iterations (bitLength (kdfBytesFor hasher.pepper hasher.hashBytes))

/-- The bytes that a hash holds. -/
def wrappedKey : List UInt8 :=
  match hasher.pepper with
  | none => derivedKey crypto hasher password salt
  | some pepper => crypto.sign (encodeText pepper.secret) (derivedKey crypto hasher password salt)

/-- PBKDF2 and HMAC idealised: no other password has the key of this one, and no other key its signature. (With
outputs of a fixed length they cannot be injective for all passwords.) -/
structure NoSecondPreimage : Prop where
  deriveBits : ∀ bytes,
    crypto.deriveBits bytes salt hasher.iterations (bitLength (kdfBytesFor hasher.pepper hasher.hashBytes)) =
      derivedKey crypto hasher password salt → bytes = encodeText password
  sign : ∀ pepper ∈ hasher.pepper, ∀ derived, crypto.sign (encodeText pepper.secret) derived =
    crypto.sign (encodeText pepper.secret) (derivedKey crypto hasher password salt) →
      derived = derivedKey crypto hasher password salt

/-- The length that a hasher asks PBKDF2 for is a number of 32 bits. With a pepper it is 32 bytes. -/
def LengthFits : Prop := hasher.pepper = none → hasher.hashBytes < 2 ^ 29

variable {crypto hasher password salt}

theorem bitLength_div {hashBytes : Nat} (h : hashBytes < 2 ^ 29) : bitLength hashBytes / 8 = hashBytes := by
  unfold bitLength
  omega

theorem LengthFits.kdfBytesFor_lt (h : LengthFits hasher) : kdfBytesFor hasher.pepper hasher.hashBytes < 2 ^ 29 := by
  unfold kdfBytesFor PEPPERED_KDF_BYTES
  split
  · exact h ‹_›
  · decide

theorem length_wrappedKey (hfits : LengthFits hasher) :
    (wrappedKey crypto hasher password salt).length = kdfBytesFor hasher.pepper hasher.hashBytes := by
  have hderived : (derivedKey crypto hasher password salt).length = kdfBytesFor hasher.pepper hasher.hashBytes :=
    (crypto.length_deriveBits _ _ _ _).trans (bitLength_div hfits.kdfBytesFor_lt)
  unfold wrappedKey
  cases hpepper : hasher.pepper with
  | none =>
    rw [hpepper] at hderived
    exact hderived
  | some pepper => exact crypto.length_sign _ _

theorem kdfBytesFor_pos : 0 < kdfBytesFor hasher.pepper hasher.hashBytes := by
  unfold kdfBytesFor PEPPERED_KDF_BYTES
  split
  · exact hasher.hashBytes_pos
  · decide

/-- When a hash is written, the platform takes its parameters, and it holds the wrapped key. -/
theorem hash_written (hfits : LengthFits hasher) {encoded : JsString}
    (h : hash crypto hasher password salt = some encoded) (hsalt : salt ≠ []) :
    (hasher.iterations < 2 ^ 32 ∧
        crypto.accepts hasher.iterations (bitLength (kdfBytesFor hasher.pepper hasher.hashBytes)) = true) ∧
      (∀ pepper ∈ hasher.pepper, encodeText pepper.secret ≠ []) ∧
      parseHash encoded = some
        { iterations := hasher.iterations, salt, hash := wrappedKey crypto hasher password salt
          pepperId := hasher.pepper.map PasswordPepper.id } := by
  unfold hash at h
  obtain ⟨derived, hderived, h⟩ := Option.bind_eq_some_iff.mp h
  obtain ⟨wrapped, hwrapped, h⟩ := Option.bind_eq_some_iff.mp h
  unfold derivePbkdf2 at hderived
  split at hderived
  case isFalse => cases hderived
  case isTrue haccepted =>
    obtain rfl := Option.some.inj hderived
    -- a pepper with an empty secret is refused by the key import
    have hsecret : wrapped = wrappedKey crypto hasher password salt ∧
        ∀ pepper ∈ hasher.pepper, encodeText pepper.secret ≠ [] := by
      unfold applyPepper at hwrapped
      unfold wrappedKey derivedKey
      cases hpepper : hasher.pepper with
      | none =>
        rw [hpepper] at hwrapped
        exact ⟨(Option.some.inj hwrapped).symm, fun _ hmem => by cases hmem⟩
      | some pepper =>
        rw [hpepper] at hwrapped
        dsimp only at hwrapped
        split at hwrapped
        · cases hwrapped
        · rename_i hfilled
          refine ⟨(Option.some.inj hwrapped).symm, fun other hother => ?_⟩
          obtain rfl : pepper = other := Option.some.inj hother
          exact hfilled
    obtain ⟨rfl, hsecrets⟩ := hsecret
    -- the hash is not empty, so it can be parsed
    have hfilled : wrappedKey crypto hasher password salt ≠ [] := by
      have hlength : (wrappedKey crypto hasher password salt).length ≠ 0 := by
        rw [length_wrappedKey hfits]
        exact (kdfBytesFor_pos).ne'
      exact fun hnil => hlength (by rw [hnil]; rfl)
    have hplain : ∀ candidate ∈ hasher.pepper, isPlainIdentifier candidate.id = true :=
      fun candidate hmem => hasher.plain candidate (List.mem_append_left _ (Option.mem_toList.mpr hmem))
    refine ⟨haccepted, hsecrets, ?_⟩
    rw [← Option.some.inj h]
    exact parseHash_written hasher.iterations_pos hsalt hfilled hplain

end

/-- The candidate that is tried for a record. -/
def candidateFor (hasher : Hasher) (pepperId : Option JsString) : Option PasswordPepper :=
  (hasher.verifyCandidates.find? (fun entry => entry.map PasswordPepper.id = pepperId)).join

theorem verifyCandidates_eq (hasher : Hasher) : hasher.verifyCandidates = hasher.peppers.map some ++ [none] := by
  unfold Hasher.verifyCandidates Hasher.peppers
  rw [List.map_append]

theorem candidateFor_none (hasher : Hasher) : candidateFor hasher none = none := by
  unfold candidateFor
  rw [verifyCandidates_eq, List.find?_append, List.find?_map]
  have hnone : hasher.peppers.find? ((fun entry => decide (entry.map PasswordPepper.id = none)) ∘ some) = none := by
    rw [List.find?_eq_none]
    intro pepper _
    simp
  rw [hnone]
  rfl

/-- With distinct ids, the pepper of an id is found. -/
theorem candidateFor_held {hasher : Hasher} (hids : (hasher.peppers.map PasswordPepper.id).Nodup)
    {pepper : PasswordPepper} (hheld : pepper ∈ hasher.peppers) : candidateFor hasher (some pepper.id) = some pepper := by
  have hfound : hasher.peppers.find? ((fun entry => decide (entry.map PasswordPepper.id = some pepper.id)) ∘ some) =
      some pepper := by
    cases hfind : hasher.peppers.find?
        ((fun entry => decide (entry.map PasswordPepper.id = some pepper.id)) ∘ some) with
    | none =>
      have hthis := List.find?_eq_none.mp hfind pepper hheld
      simp at hthis
    | some other =>
      have hid : other.id = pepper.id := by simpa using List.find?_some hfind
      have hother := List.mem_of_find?_eq_some hfind
      rw [List.inj_on_of_nodup_map hids hother hheld hid]
  unfold candidateFor
  rw [verifyCandidates_eq, List.find?_append, List.find?_map, hfound]
  rfl

theorem candidateFor_absent {hasher : Hasher} {id : JsString} (habsent : ∀ held ∈ hasher.peppers, held.id ≠ id) :
    candidateFor hasher (some id) = none := by
  have hnone : hasher.peppers.find? ((fun entry => decide (entry.map PasswordPepper.id = some id)) ∘ some) = none := by
    rw [List.find?_eq_none]
    intro pepper hpepper
    simpa using habsent pepper hpepper
  unfold candidateFor
  rw [verifyCandidates_eq, List.find?_append, List.find?_map, hnone]
  simp

section

variable {crypto : WebCrypto} {hasher other : Hasher} {password encoded : JsString} {salt : List UInt8}

/-- A hasher that holds the pepper compares with the key that the writer would wrap. -/
theorem verify_written (hfits : LengthFits hasher) (hsalt : salt ≠ [])
    (hhash : hash crypto hasher password salt = some encoded)
    (hids : (other.peppers.map PasswordPepper.id).Nodup) (hheld : ∀ pepper ∈ hasher.pepper, pepper ∈ other.peppers)
    (tried : JsString) :
    verify crypto other tried encoded =
      some (timingSafeEqual (wrappedKey crypto hasher tried salt) (wrappedKey crypto hasher password salt)) := by
  obtain ⟨haccepted, hsecrets, hparsed⟩ := hash_written hfits hhash hsalt
  -- the pepper that made the hash is found by its id
  have hcandidate : candidateFor other (hasher.pepper.map PasswordPepper.id) = hasher.pepper := by
    cases hpepper : hasher.pepper with
    | none => exact candidateFor_none other
    | some pepper => exact candidateFor_held hids (hheld pepper hpepper)
  have hbytes : (if hasher.pepper.map PasswordPepper.id = none then (wrappedKey crypto hasher password salt).length
      else PEPPERED_KDF_BYTES) = kdfBytesFor hasher.pepper hasher.hashBytes := by
    rw [length_wrappedKey hfits]
    unfold kdfBytesFor
    cases hpepper : hasher.pepper <;> simp
  have hpresent : ¬(hasher.pepper.map PasswordPepper.id ≠ none ∧ hasher.pepper = none) := by
    rintro ⟨hid, hnone⟩
    rw [hnone] at hid
    exact hid rfl
  -- the same parameters derive the key of the password that is tried
  have hderived : derivePbkdf2 crypto tried salt hasher.iterations (kdfBytesFor hasher.pepper hasher.hashBytes) =
      some (derivedKey crypto hasher tried salt) := by
    unfold derivePbkdf2
    rw [if_pos haccepted]
    rfl
  have hwrapped : applyPepper crypto (derivedKey crypto hasher tried salt) hasher.pepper =
      some (wrappedKey crypto hasher tried salt) := by
    unfold applyPepper wrappedKey
    cases hpepper : hasher.pepper with
    | none => rfl
    | some pepper => exact if_neg (hsecrets pepper hpepper)
  unfold verify
  rw [hparsed]
  unfold candidateFor at hcandidate
  dsimp only
  rw [hcandidate, if_neg hpresent, hbytes, hderived]
  change (applyPepper crypto (derivedKey crypto hasher tried salt) hasher.pepper).bind _ = _
  rw [hwrapped]
  rfl

theorem needsRehash_written (hfits : LengthFits hasher) (hsalt : salt ≠ [])
    (hhash : hash crypto hasher password salt = some encoded) : needsRehash hasher encoded = false := by
  obtain ⟨-, -, hparsed⟩ := hash_written hfits hhash hsalt
  unfold needsRehash
  rw [hparsed]
  dsimp only
  rw [if_neg (not_not.mpr rfl), if_neg (lt_irrefl _), length_wrappedKey hfits]
  unfold kdfBytesFor
  cases hasher.pepper <;> simp

/-- Another password, with another encoding, has another wrapped key. -/
theorem NoSecondPreimage.wrappedKey_ne (hideal : NoSecondPreimage crypto hasher password salt) {tried : JsString}
    (htried : encodeText tried ≠ encodeText password) :
    wrappedKey crypto hasher tried salt ≠ wrappedKey crypto hasher password salt := by
  intro hsame
  have hkey : derivedKey crypto hasher tried salt = derivedKey crypto hasher password salt := by
    unfold wrappedKey at hsame
    cases hpepper : hasher.pepper with
    | none =>
      rw [hpepper] at hsame
      exact hsame
    | some pepper =>
      rw [hpepper] at hsame
      exact hideal.sign pepper hpepper _ hsame
  exact htried (hideal.deriveBits _ hkey)

/-- A hasher without the pepper of a hash accepts no password. -/
theorem verify_absent (hfits : LengthFits hasher) (hsalt : salt ≠ [])
    (hhash : hash crypto hasher password salt = some encoded) {pepper : PasswordPepper}
    (hpepper : hasher.pepper = some pepper) (habsent : ∀ held ∈ other.peppers, held.id ≠ pepper.id) (tried : JsString) :
    verify crypto other tried encoded = some false := by
  obtain ⟨-, -, hparsed⟩ := hash_written hfits hhash hsalt
  have hcandidate := candidateFor_absent habsent
  unfold candidateFor at hcandidate
  unfold verify
  rw [hparsed, hpepper]
  dsimp only [Option.map_some]
  rw [hcandidate, if_pos ⟨Option.some_ne_none _, rfl⟩]

variable {options : WebCryptoPbkdf2PasswordHasherOptions}

/-- **Hashes keep verifying.** A hash is not stale for its hasher. Every hasher that holds the pepper, if there is
one, accepts the password, and no other one whose text is encoded to other bytes; a hasher without the pepper
accepts none. -/
theorem hash_verifies (hmade : webCryptoPbkdf2PasswordHasher options = .ok hasher)
    (hbytes : options.pepper = none → options.hashBytes.getD 32 < 2 ^ 29)
    (hsalt : (salt.length : Rat) = options.saltBytes.getD 16)
    (hhash : hash crypto hasher password salt = some encoded) :
    needsRehash hasher encoded = false ∧
    (∀ options' other, webCryptoPbkdf2PasswordHasher options' = .ok other →
      (options'.peppers.map PasswordPepper.id).Nodup → (∀ pepper ∈ options.pepper, pepper ∈ options'.peppers) →
        verify crypto other password encoded = some true ∧
        (NoSecondPreimage crypto hasher password salt → ∀ tried, encodeText tried ≠ encodeText password →
          verify crypto other tried encoded = some false)) ∧
    (∀ options' other, webCryptoPbkdf2PasswordHasher options' = .ok other →
      (∃ pepper ∈ options.pepper, ∀ held ∈ options'.peppers, held.id ≠ pepper.id) →
      ∀ tried, verify crypto other tried encoded = some false) := by
  have hof := webCryptoPbkdf2PasswordHasher_ok hmade
  -- without a pepper the bits of the hash are those that were asked for
  have hfits : LengthFits hasher := by
    intro hnone
    have hlt := hbytes (hof.pepper ▸ hnone)
    rw [← hof.hashBytes] at hlt
    exact_mod_cast hlt
  have hfilled : salt ≠ [] := by
    rintro rfl
    rw [← hof.saltBytes] at hsalt
    have hzero : 0 = hasher.saltBytes := by exact_mod_cast hsalt
    exact absurd hzero hasher.saltBytes_pos.ne
  refine ⟨needsRehash_written hfits hfilled hhash, ?_, ?_⟩
  · intro options' other hother hids hheld
    have hof' := webCryptoPbkdf2PasswordHasher_ok hother
    rw [← hof'.peppers] at hids hheld
    rw [← hof.pepper] at hheld
    constructor
    · rw [verify_written hfits hfilled hhash hids hheld, (timingSafeEqual_iff rfl).mpr rfl]
    · intro hideal tried htried
      have hlength : (wrappedKey crypto hasher tried salt).length = (wrappedKey crypto hasher password salt).length := by
        rw [length_wrappedKey hfits, length_wrappedKey hfits]
      rw [verify_written hfits hfilled hhash hids hheld, Option.some.injEq, ← Bool.not_eq_true,
        timingSafeEqual_iff hlength]
      exact hideal.wrappedKey_ne htried
  · rintro options' other hother ⟨pepper, hpepper, habsent⟩ tried
    rw [← (webCryptoPbkdf2PasswordHasher_ok hother).peppers] at habsent
    exact verify_absent hfits hfilled hhash (hof.pepper.trans hpepper) habsent tried

end

/-! ### A stored password -/

def sampleSalt : List UInt8 := [0, 1, 2, 3, 4, 5, 6, 7, 8, 9, 10, 11, 12, 13, 14, 15]

/-- A platform of which only some results are given: what it derives from one password, up to 32 bytes, and one
signature. -/
def tablePlatform (password key : List UInt8) (derived signed : List UInt8) (hderived : derived.length = 32)
    (hsigned : signed.length = 32) : WebCrypto where
  accepts := fun _ _ => true
  deriveBits := fun bytes salt iterations length =>
    if bytes = password ∧ salt = sampleSalt ∧ iterations = 1000 then
      derived.take (length / 8) ++ List.replicate (length / 8 - 32) 0
    else List.replicate (length / 8) 0
  sign := fun secret message => if secret = key ∧ message = derived then signed else List.replicate 32 0
  length_deriveBits := by
    intro bytes salt iterations length
    split
    · rw [List.length_append, List.length_take, List.length_replicate, hderived]
      omega
    · exact List.length_replicate
  length_sign := by
    intro secret message
    split
    · exact hsigned
    · exact List.length_replicate

/-- PBKDF2 of "hunter2" with this salt and 1000 iterations. -/
def hunterKey : List UInt8 :=
  [245, 85, 14, 137, 17, 159, 89, 60, 211, 102, 44, 109, 125, 165, 189, 63,
    122, 144, 226, 92, 210, 220, 34, 31, 88, 166, 22, 108, 119, 39, 83, 211]

/-- HMAC of that with "s3cret". -/
def hunterSigned : List UInt8 :=
  [221, 215, 108, 198, 245, 86, 15, 40, 11, 142, 151, 55, 83, 162, 195, 66,
    130, 127, 55, 207, 164, 243, 28, 171, 8, 95, 112, 169, 17, 98, 29, 177]

def hunterPlatform : WebCrypto :=
  tablePlatform (encodeText (js "hunter2")) (encodeText (js "s3cret")) hunterKey hunterSigned rfl rfl

def firstPepper : PasswordPepper := { id := js "p1", secret := js "s3cret" }

def firstOptions : WebCryptoPbkdf2PasswordHasherOptions := { iterations := some 1000, pepper := some firstPepper }

/-- After a rotation. -/
def nextOptions : WebCryptoPbkdf2PasswordHasherOptions :=
  { pepper := some { id := js "p2", secret := js "other" }, previousPeppers := some [firstPepper] }

def plainOptions : WebCryptoPbkdf2PasswordHasherOptions := { iterations := some 1000 }

def hasherWith (iterations : Nat) (pepper : Option PasswordPepper) (previousPeppers : List PasswordPepper)
    (iterations_pos : 0 < iterations)
    (plain : ∀ candidate ∈ pepper.toList ++ previousPeppers, isPlainIdentifier candidate.id = true) : Hasher where
  iterations
  saltBytes := 16
  hashBytes := 32
  pepper
  previousPeppers
  iterations_pos
  saltBytes_pos := by decide
  hashBytes_pos := by decide
  plain

def firstHasher : Hasher := hasherWith 1000 (some firstPepper) [] (by decide) (by decide +kernel)

def nextHasher : Hasher :=
  hasherWith 600000 (some { id := js "p2", secret := js "other" }) [firstPepper] (by decide) (by decide +kernel)

def plainHasher : Hasher := hasherWith 1000 none [] (by decide) (by decide +kernel)

def hunterHash : JsString :=
  js "pbkdf2-sha256$1000$AAECAwQFBgcICQoLDA0ODw$3ddsxvVWDygLjpc3U6LDQoJ_N8-k8xyrCF9wqRFiHbE$p1"

theorem noSecondPreimage_hunter : NoSecondPreimage hunterPlatform firstHasher (js "hunter2") sampleSalt where
  deriveBits := by
    intro bytes h
    have hkey : derivedKey hunterPlatform firstHasher (js "hunter2") sampleSalt = hunterKey := by decide +kernel
    have hzeros : List.replicate 32 0 ≠ hunterKey := by decide +kernel
    rw [hkey] at h
    by_contra hother
    have hmiss : hunterPlatform.deriveBits bytes sampleSalt firstHasher.iterations
        (bitLength (kdfBytesFor firstHasher.pepper firstHasher.hashBytes)) = List.replicate 32 0 :=
      if_neg (fun hall => hother hall.1)
    exact hzeros (hmiss.symm.trans h)
  sign := by
    rintro pepper hpepper derived h
    obtain rfl : firstPepper = pepper := Option.some.inj hpepper
    have hkey : derivedKey hunterPlatform firstHasher (js "hunter2") sampleSalt = hunterKey := by decide +kernel
    have hsigned : hunterPlatform.sign (encodeText firstPepper.secret) hunterKey = hunterSigned := by decide +kernel
    have hzeros : List.replicate 32 0 ≠ hunterSigned := by decide +kernel
    rw [hkey] at h ⊢
    rw [hsigned] at h
    by_contra hother
    have hmiss : hunterPlatform.sign (encodeText firstPepper.secret) derived = List.replicate 32 0 :=
      if_neg (fun hall => hother hall.2)
    exact hzeros (hmiss.symm.trans h)

theorem hash_verifies_hunter :
    needsRehash firstHasher hunterHash = false ∧
      verify hunterPlatform nextHasher (js "hunter2") hunterHash = some true ∧
      verify hunterPlatform nextHasher (js "hunter3") hunterHash = some false ∧
      verify hunterPlatform plainHasher (js "hunter2") hunterHash = some false := by
  have hfirst : webCryptoPbkdf2PasswordHasher firstOptions = .ok firstHasher := by decide +kernel
  have hnext : webCryptoPbkdf2PasswordHasher nextOptions = .ok nextHasher := by decide +kernel
  have hplain : webCryptoPbkdf2PasswordHasher plainOptions = .ok plainHasher := by decide +kernel
  have hhash : hash hunterPlatform firstHasher (js "hunter2") sampleSalt = some hunterHash := by decide +kernel
  obtain ⟨hfresh, hheld, habsent⟩ := hash_verifies hfirst (fun hnone => by cases hnone) (by decide +kernel) hhash
  have hids : (nextOptions.peppers.map PasswordPepper.id).Nodup := by decide +kernel
  have hpepper : ∀ pepper ∈ firstOptions.pepper, pepper ∈ nextOptions.peppers := by decide +kernel
  obtain ⟨haccepts, hrefuses⟩ := hheld nextOptions nextHasher hnext hids hpepper
  exact ⟨hfresh, haccepts, hrefuses noSecondPreimage_hunter (js "hunter3") (by decide +kernel),
    habsent plainOptions plainHasher hplain ⟨firstPepper, rfl, by decide +kernel⟩ (js "hunter2")⟩

/-- PBKDF2 of an unpaired surrogate, which is encoded as U+FFFD. -/
def replacementKey : List UInt8 :=
  [98, 32, 51, 178, 240, 208, 67, 230, 86, 184, 222, 165, 167, 119, 147, 25,
    154, 236, 137, 39, 146, 149, 249, 155, 250, 10, 225, 57, 197, 237, 233, 80]

def replacementPlatform : WebCrypto := tablePlatform [0xEF, 0xBF, 0xBD] [] replacementKey replacementKey rfl rfl

def replacementHash : JsString :=
  js "pbkdf2-sha256$1000$AAECAwQFBgcICQoLDA0ODw$YiAzsvDQQ-ZWuN6lp3eTGZrsiSeSlfmb-grhOcXt6VA"

/-- `2 ^ 29 + 1` bytes are 8 bits, as an unsigned long. -/
def wideOptions : WebCryptoPbkdf2PasswordHasherOptions := { iterations := some 1000, hashBytes := some (2 ^ 29 + 1) }

/-- The hash of an unpaired surrogate is verified with another password, U+FFFD. And a hasher that is asked for
`2 ^ 29 + 1` bytes takes its own hash, of one byte, for stale. -/
theorem verify_replacement :
    (webCryptoPbkdf2PasswordHasher plainOptions = .ok plainHasher ∧
      hash replacementPlatform plainHasher [0xD800] sampleSalt = some replacementHash ∧
      NoSecondPreimage replacementPlatform plainHasher [0xD800] sampleSalt ∧
      ([0xFFFD] : JsString) ≠ [0xD800] ∧
      verify replacementPlatform plainHasher [0xFFFD] replacementHash = some true) ∧
    (webCryptoPbkdf2PasswordHasher wideOptions).map (fun hasher =>
      (hash replacementPlatform hasher [0xFFFD] sampleSalt).map (needsRehash hasher)) = .ok (some true) := by
  refine ⟨⟨by decide +kernel, by decide +kernel, ⟨?_, fun pepper hpepper => by cases hpepper⟩, by decide,
    by decide +kernel⟩, by decide +kernel⟩
  intro bytes h
  have hkey : derivedKey replacementPlatform plainHasher [0xD800] sampleSalt = replacementKey := by decide +kernel
  have hencoded : encodeText [0xD800] = [0xEF, 0xBF, 0xBD] := by decide +kernel
  have hzeros : List.replicate 32 0 ≠ replacementKey := by decide +kernel
  rw [hkey] at h
  by_contra hother
  rw [hencoded] at hother
  have hmiss : replacementPlatform.deriveBits bytes sampleSalt plainHasher.iterations
      (bitLength (kdfBytesFor plainHasher.pepper plainHasher.hashBytes)) = List.replicate 32 0 :=
    if_neg (fun hall => hother hall.1)
  exact hzeros (hmiss.symm.trans h)

end PasswordHasher
