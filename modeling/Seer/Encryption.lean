import Seer.Lib.Base64
import Seer.Lib.Padding
import Seer.State.Document

/-!
# The encrypted configuration file

Salt, initialisation vector, ciphertext and an outer HMAC, as base64. The password policy
and the cryptographic primitives are given functions with their laws. A slice or block
operation that Go would refuse at run time ends in a panic here, and it is proved that none
does.
-/
namespace Seer.Encryption

open Seer.Lib
open Seer.State (Bytes)

def idTime : Nat := 1
def idMem : Nat := 64 * 1024
def idKeySize : Nat := 32
def ivSize : Nat := 16
def macSize : Nat := 32

/-- `aes.BlockSize`. -/
def blockSize : Nat := 16

/-- The password policy, Argon2id, AES-CBC on full blocks, HMAC-SHA-256 and base64. -/
structure Primitives where
  validate : String → Option GoError
  idKey (pass : String) (salt : Bytes) (time memory threads keyLen : Nat) : Bytes
  encryptBlocks (key iv : Bytes) : Bytes → Bytes
  decryptBlocks (key iv : Bytes) : Bytes → Bytes
  hmac (key : Bytes) : Bytes → Bytes
  encode : Bytes → Bytes
  decode : Bytes → Except GoError Bytes
  length_idKey : ∀ pass salt time memory threads keyLen,
    (idKey pass salt time memory threads keyLen).length = keyLen
  length_encrypt : ∀ key iv data, data.length % 16 = 0 → (encryptBlocks key iv data).length = data.length
  length_decrypt : ∀ key iv data, data.length % 16 = 0 → (decryptBlocks key iv data).length = data.length
  decrypt_encrypt : ∀ key iv data, key.length = 32 → iv.length = 16 → data.length % 16 = 0 →
    decryptBlocks key iv (encryptBlocks key iv data) = data
  encrypt_decrypt : ∀ key iv data, key.length = 32 → iv.length = 16 → data.length % 16 = 0 →
    encryptBlocks key iv (decryptBlocks key iv data) = data
  length_hmac : ∀ key data, (hmac key data).length = 32
  decode_encode : ∀ data, decode (encode data) = .ok data

/-- How a call ends if it does not return a value. -/
inductive Stop where
  | failed (err : GoError)
  | panicked
  deriving DecidableEq

abbrev Call : Type → Type := Except Stop

def fail {α : Type} (message : String) : Call α := .error (.failed (.text message))

/-- An error of a callee is returned. -/
def returned {α : Type} : Except GoError α → Call α
  | .ok value => .ok value
  | .error err => .error (.failed err)

/-- `data[low:high]`. -/
def slice (data : Bytes) (low high : Int) : Call Bytes :=
  if 0 ≤ low ∧ low ≤ high ∧ high ≤ data.length then
    .ok ((data.take high.toNat).drop low.toNat)
  else .error .panicked

/-- `data[index]`. -/
def element (data : Bytes) (index : Int) : Call UInt8 :=
  if index < 0 then .error .panicked
  else match data[index.toNat]? with
    | some byte => .ok byte
    | none => .error .panicked

/-- `bytes.Repeat([]byte{byte}, count)`. -/
def repeated (byte : UInt8) (count : Nat) : Bytes := List.replicate count byte

/-- `aes.NewCipher(key)`, as far as it can fail. -/
def newCipher (key : Bytes) : Call Unit :=
  if key.length = 16 ∨ key.length = 24 ∨ key.length = 32 then .ok ()
  else fail ("crypto/aes: invalid key size " ++ toString key.length)

/-- `cipher.NewCBCEncrypter` and `cipher.NewCBCDecrypter` insist on the size of the vector. -/
def newCBC (iv : Bytes) : Call Unit :=
  if iv.length = blockSize then .ok () else .error .panicked

/-- `dst := make([]byte, size)` and `cbc.CryptBlocks(dst, src)`. -/
def cryptBlocks (crypt : Bytes → Bytes) (size : Int) (src : Bytes) : Call Bytes :=
  if size < 0 ∨ src.length % blockSize ≠ 0 ∨ size < src.length then .error .panicked
  else .ok (crypt src ++ List.replicate (size.toNat - src.length) 0)

/-- Bytes from `rand.Read`. -/
abbrev Drawn (size : Nat) : Type := { bytes : Bytes // bytes.length = size }

/-- The argument `knownSalt`; nil comes with what `rand.Read` then returns. -/
inductive Salt where
  | known (salt : Bytes)
  | drawn (result : Except GoError (Drawn idKeySize))

section Functions
variable (prims : Primitives)

def getKey (pass : String) (knownSalt : Salt) : Call (Bytes × Bytes × Bytes) := do
  match prims.validate pass with
  | some err => .error (.failed err)
  | none =>
    -- A salt that was drawn is not checked, one that was read is.
    let salt ← match knownSalt with
      | .drawn result => (returned result).map (·.val)
      | .known salt =>
        if salt.length ≠ idKeySize ∨ salt = repeated 0 idKeySize then
          fail ("salt must be " ++ toString idKeySize ++ " bytes and non-zero")
        else .ok salt
    let keys := prims.idKey pass salt idTime idMem 1 (idKeySize * 2)
    if keys.length ≠ idKeySize * 2 ∨ keys = repeated 0 (idKeySize * 2) then
      fail "invalid key, was all zeros"
    else do
      let key ← slice keys 0 idKeySize
      let macKey ← slice keys idKeySize keys.length
      return (key, macKey, salt)

/-- With what `rand.Read` returns for the salt and for the vector. -/
def encrypt (plainText : Bytes) (password : String) (salt : Except GoError (Drawn idKeySize))
    (iv : Except GoError (Drawn ivSize)) : Call Bytes := do
  if plainText.length = 0 then fail "invalid config file"
  else do
    let (key, macKey, salt) ← getKey prims password (.drawn salt)
    newCipher key
    let iv ← returned iv
    newCBC iv.val
    -- A full block is added when the length is a multiple of the block size.
    let padLen := blockSize - plainText.length % blockSize
    let plainText := if padLen > 0 then plainText ++ repeated (UInt8.ofNat padLen) padLen
      else plainText
    let cipherText ← cryptBlocks (prims.encryptBlocks key iv.val) plainText.length plainText
    if cipherText.length = 0 then fail "invalid ciphertext, nothing encrypted"
    else
      let buf := salt ++ iv.val ++ cipherText
      return prims.encode (buf ++ prims.hmac macKey buf)

/-- The end of `decrypt`. -/
def removePadding (plainText : Bytes) : Call Bytes := do
  if plainText.length = 0 then fail "plaintext was empty"
  else do
    let last ← element plainText (plainText.length - 1)
    let padLen := last.toNat
    if padLen < 1 ∨ padLen > blockSize ∨ padLen > plainText.length then
      fail "plaintext has invalid padding"
    else do
      let padding ← slice plainText (plainText.length - padLen) plainText.length
      if padding ≠ repeated (UInt8.ofNat padLen) padLen then fail "plaintext has invalid padding"
      else slice plainText 0 (plainText.length - padLen)

def decrypt (encodedFile : Bytes) (password : String) : Call Bytes := do
  let cipherText ← returned (prims.decode encodedFile)
  let size := cipherText.length
  let minimumSize := idKeySize + ivSize + blockSize + macSize
  -- Negative for a short file, which the first half of the check has then refused.
  let cipherBytes : Int := size - idKeySize - ivSize - macSize
  if size < minimumSize ∨ cipherBytes.tmod blockSize ≠ 0 then fail "ciphertext has an invalid length"
  else do
    let salt ← slice cipherText 0 idKeySize
    let (key, macKey, _) ← getKey prims password (.known salt)
    let authText ← slice cipherText 0 (cipherText.length - macSize)
    let mac ← slice cipherText (cipherText.length - macSize) cipherText.length
    -- Nothing is decrypted before the file is authenticated.
    if mac ≠ prims.hmac macKey authText then fail "HMAC authentication failed"
    else do
      newCipher key
      let iv ← slice cipherText idKeySize (idKeySize + ivSize)
      newCBC iv
      let body ← slice authText (ivSize + idKeySize) authText.length
      let plainText ← cryptBlocks (prims.decryptBlocks key iv)
        (authText.length - ivSize - idKeySize) body
      removePadding plainText

end Functions

/-! ## Slices -/

/-- A slice of a concatenation at the ends of one of its parts is that part. -/
theorem slice_middle (before part after : Bytes) {low high : Int} (start : low = before.length)
    (stop : high = before.length + part.length) :
    slice (before ++ part ++ after) low high = .ok part := by
  subst start stop
  have inside : (0 : Int) ≤ before.length ∧ (before.length : Int) ≤ before.length + part.length ∧
      (before.length + part.length : Int) ≤ (before ++ part ++ after).length := by
    simp only [List.length_append]
    omega
  have whole : ((before.length : Int) + part.length).toNat = (before ++ part).length := by
    rw [List.length_append]
    omega
  rw [slice, if_pos inside, whole, List.take_left, Int.toNat_natCast, List.drop_left]

theorem slice_left (part after : Bytes) {high : Int} (stop : high = part.length) :
    slice (part ++ after) 0 high = .ok part :=
  slice_middle [] part after rfl (by simpa using stop)

theorem slice_right (before part : Bytes) {low high : Int} (start : low = before.length)
    (stop : high = before.length + part.length) : slice (before ++ part) low high = .ok part := by
  have middle := slice_middle before part [] start stop
  rwa [List.append_nil] at middle

theorem element_last (data : Bytes) {byte : UInt8} (last : data[data.length - 1]? = some byte) :
    element data (data.length - 1) = .ok byte := by
  have inside := (List.getElem?_eq_some_iff.mp last).1
  have here : ((data.length : Int) - 1).toNat = data.length - 1 := by omega
  rw [element, if_neg (by omega), here, last]

theorem newCBC_full {iv : Bytes} (size : iv.length = 16) : newCBC iv = .ok () :=
  if_pos size

/-- The destination has the size of the source, which is made of full blocks. -/
theorem cryptBlocks_full (crypt : Bytes → Bytes) {src : Bytes} {size : Int}
    (full : src.length % 16 = 0) (same : size = src.length) :
    cryptBlocks crypt size src = .ok (crypt src) := by
  subst same
  have fine : ¬ ((src.length : Int) < 0 ∨ src.length % blockSize ≠ 0 ∨
      (src.length : Int) < src.length) := by
    unfold blockSize
    omega
  rw [cryptBlocks, if_neg fine, Int.toNat_natCast, Nat.sub_self]
  simp

/-! ## Padding -/

theorem removePadding_pad (data : Bytes) : removePadding (pad blockSize data) = .ok data := by
  have added := padLength_pos blockSize (by decide) data.length
  have bound := padLength_le blockSize data.length
  have count := toNat_padLength blockSize (by decide) data.length
  have size := length_pad blockSize data
  have last := element_last _ (getLast_pad blockSize (by decide) data)
  have nonempty : ¬ (pad blockSize data).length = 0 := by omega
  -- The last byte passes the range check, and the slices are the padding and the data.
  have sound : ¬ (padLength blockSize data.length < 1 ∨ padLength blockSize data.length > blockSize ∨
      padLength blockSize data.length > (pad blockSize data).length) := by omega
  have tail : slice (pad blockSize data) ((pad blockSize data).length - padLength blockSize data.length)
      (pad blockSize data).length =
        .ok (repeated (UInt8.ofNat (padLength blockSize data.length)) (padLength blockSize data.length)) := by
    refine slice_right data _ ?_ ?_
    · omega
    · rw [size, List.length_replicate]
      omega
  have front : slice (pad blockSize data) 0
      ((pad blockSize data).length - padLength blockSize data.length) = .ok data :=
    slice_left data _ (by omega)
  simp only [removePadding, if_neg nonempty, last, bind, Except.bind, count, if_neg sound, tail, front,
    ne_eq, not_true_eq_false, if_false]

/-- What comes back from full blocks is what was padded, or there is an error. -/
theorem removePadding_full {data : Bytes} (full : data.length % 16 = 0) (some : data.length ≠ 0) :
    (∃ err, removePadding data = .error (.failed err)) ∨
      ∃ plain, removePadding data = .ok plain ∧ data = pad blockSize plain := by
  have inside : data.length - 1 < data.length := by omega
  have last := element_last data (List.getElem?_eq_getElem inside)
  unfold removePadding
  rw [if_neg some, last]
  dsimp only [bind, Except.bind]
  generalize data[data.length - 1] = byte
  split
  next => exact .inl ⟨_, rfl⟩
  next sound =>
    simp only [not_or, Nat.not_lt] at sound
    obtain ⟨positive, fits, bound⟩ := sound
    -- The byte is in range, so both slices are, too.
    have parts := List.take_append_drop (data.length - byte.toNat) data
    have before : (data.take (data.length - byte.toNat)).length = data.length - byte.toNat := by
      rw [List.length_take]
      omega
    have after : (data.drop (data.length - byte.toNat)).length = byte.toNat := by
      rw [List.length_drop]
      omega
    have tail : slice data (data.length - byte.toNat) data.length =
        .ok (data.drop (data.length - byte.toNat)) := by
      have right : slice (data.take (data.length - byte.toNat) ++ data.drop (data.length - byte.toNat))
          (data.length - byte.toNat) data.length = .ok (data.drop (data.length - byte.toNat)) :=
        slice_right _ _ (by omega) (by omega)
      rwa [parts] at right
    have front : slice data 0 (data.length - byte.toNat) =
        .ok (data.take (data.length - byte.toNat)) := by
      have left : slice (data.take (data.length - byte.toNat) ++ data.drop (data.length - byte.toNat))
          0 (data.length - byte.toNat) = .ok (data.take (data.length - byte.toNat)) :=
        slice_left _ _ (by omega)
      rwa [parts] at left
    rw [tail, front]
    dsimp only
    split
    next => exact .inl ⟨_, rfl⟩
    next same =>
      refine .inr ⟨_, rfl, ?_⟩
      exact (pad_take positive fits full bound (not_not.mp same)).symm

/-! ## Keys -/

section Format
variable (prims : Primitives)

/-- Both keys, as they are derived from a password and a salt. -/
def derived (pass : String) (salt : Bytes) : Bytes :=
  prims.idKey pass salt idTime idMem 1 (idKeySize * 2)

def cipherKey (pass : String) (salt : Bytes) : Bytes := (derived prims pass salt).take idKeySize

def macKey (pass : String) (salt : Bytes) : Bytes := (derived prims pass salt).drop idKeySize

/-- The policy accepts the password, and the derived keys are not all zero. -/
def Keyed (pass : String) (salt : Bytes) : Prop :=
  prims.validate pass = none ∧ derived prims pass salt ≠ repeated 0 (idKeySize * 2)

theorem length_cipherKey (pass : String) (salt : Bytes) :
    (cipherKey prims pass salt).length = 32 := by
  rw [cipherKey, List.length_take, derived, prims.length_idKey]
  rfl

theorem newCipher_cipherKey (pass : String) (salt : Bytes) :
    newCipher (cipherKey prims pass salt) = .ok () := by
  rw [newCipher, if_pos (.inr (.inr (length_cipherKey prims pass salt)))]

/-- The two halves of what is derived. -/
theorem slice_derived (pass : String) (salt : Bytes) :
    slice (derived prims pass salt) 0 idKeySize = .ok (cipherKey prims pass salt) ∧
      slice (derived prims pass salt) idKeySize (derived prims pass salt).length =
        .ok (macKey prims pass salt) := by
  have size : (derived prims pass salt).length = 64 := prims.length_idKey _ _ _ _ _ _
  have front := length_cipherKey prims pass salt
  have back : (macKey prims pass salt).length = 32 := by
    rw [macKey, List.length_drop, size]
    rfl
  have whole : derived prims pass salt = cipherKey prims pass salt ++ macKey prims pass salt :=
    (List.take_append_drop _ _).symm
  constructor
  · rw [whole]
    exact slice_left _ _ (by rw [front]; rfl)
  · rw [size, whole]
    exact slice_right _ _ (by rw [front]; rfl) (by rw [front, back]; rfl)

/-- With a salt at hand, `getKey` returns its keys or an error. -/
theorem getKey_salt (pass : String) (knownSalt : Salt) {salt : Bytes}
    (ready : match knownSalt with
      | .known given => given = salt ∧ salt.length = 32 ∧ salt ≠ repeated 0 32
      | .drawn result => ∃ drawn, result = .ok drawn ∧ drawn.val = salt) :
    Keyed prims pass salt ∧ getKey prims pass knownSalt =
        .ok (cipherKey prims pass salt, macKey prims pass salt, salt) ∨
      ¬ Keyed prims pass salt ∧ ∃ err, getKey prims pass knownSalt = .error (.failed err) := by
  obtain ⟨front, back⟩ := slice_derived prims pass salt
  have size : (derived prims pass salt).length = idKeySize * 2 := prims.length_idKey _ _ _ _ _ _
  -- Past the policy and the salt, both kinds of salt come to the same.
  have finish : ∀ accepted : prims.validate pass = none,
      getKey prims pass knownSalt =
        (if (derived prims pass salt).length ≠ idKeySize * 2 ∨
            derived prims pass salt = repeated 0 (idKeySize * 2) then
          fail "invalid key, was all zeros"
        else do
          let key ← slice (derived prims pass salt) 0 idKeySize
          let macKey ← slice (derived prims pass salt) idKeySize (derived prims pass salt).length
          return (key, macKey, salt)) := by
    intro accepted
    unfold getKey
    rw [accepted]
    cases knownSalt with
    | known given =>
      obtain ⟨rfl, length, nonzero⟩ := ready
      have good : ¬ (given.length ≠ idKeySize ∨ given = repeated 0 idKeySize) := by
        rintro (short | zero)
        · exact short length
        · exact nonzero zero
      dsimp only
      rw [if_neg good]
      rfl
    | drawn result =>
      obtain ⟨drawn, rfl, rfl⟩ := ready
      rfl
  cases accepted : prims.validate pass with
  | some err =>
    refine .inr ⟨fun keyed => ?_, err, ?_⟩
    · rw [keyed.1] at accepted
      cases accepted
    · unfold getKey
      rw [accepted]
  | none =>
    rw [finish accepted]
    by_cases zero : derived prims pass salt = repeated 0 (idKeySize * 2)
    · rw [if_pos (.inr zero)]
      exact .inr ⟨fun keyed => keyed.2 zero, _, rfl⟩
    · rw [if_neg (by simp [size, zero]), front, back]
      exact .inl ⟨⟨accepted, zero⟩, rfl⟩

/-- A salt from a file is accepted only if it has the right size and is not zero. -/
theorem getKey_known (pass : String) (salt : Bytes) :
    (salt.length = 32 ∧ salt ≠ repeated 0 32 ∧ Keyed prims pass salt) ∧
        getKey prims pass (.known salt) =
          .ok (cipherKey prims pass salt, macKey prims pass salt, salt) ∨
      ¬ (salt.length = 32 ∧ salt ≠ repeated 0 32 ∧ Keyed prims pass salt) ∧
        ∃ err, getKey prims pass (.known salt) = .error (.failed err) := by
  by_cases good : salt.length = 32 ∧ salt ≠ repeated 0 32
  · rcases getKey_salt prims pass (.known salt) ⟨rfl, good⟩ with ⟨keyed, ok⟩ | ⟨keyless, failed⟩
    · exact .inl ⟨⟨good.1, good.2, keyed⟩, ok⟩
    · exact .inr ⟨fun all => keyless all.2.2, failed⟩
  · refine .inr ⟨fun all => good ⟨all.1, all.2.1⟩, ?_⟩
    have bad : salt.length ≠ idKeySize ∨ salt = repeated 0 idKeySize := by
      by_cases size : salt.length = 32
      · exact .inr (by_contra fun nonzero => good ⟨size, nonzero⟩)
      · exact .inl size
    unfold getKey
    cases prims.validate pass with
    | some err => exact ⟨err, rfl⟩
    | none =>
      dsimp only
      rw [if_pos bad]
      exact ⟨_, rfl⟩

/-! ## The format -/

/-- The file for given salt, vector and ciphertext, before base64. -/
def sealed (pass : String) (salt iv body : Bytes) : Bytes :=
  salt ++ iv ++ body ++ prims.hmac (macKey prims pass salt) (salt ++ iv ++ body)

/-- Base64-decoding gives the salt, the vector, the encrypted padded plaintext and its
HMAC, under keys from an accepted password. -/
def Framed (encodedFile : Bytes) (pass : String) (plain : Bytes) : Prop :=
  prims.validate pass = none ∧ ∃ salt iv : Bytes,
    salt.length = 32 ∧ salt ≠ repeated 0 32 ∧ iv.length = 16 ∧
    derived prims pass salt ≠ repeated 0 64 ∧
    prims.decode encodedFile = .ok (sealed prims pass salt iv
      (prims.encryptBlocks (cipherKey prims pass salt) iv (pad blockSize plain)))

/-- The parts of a file of an acceptable length. -/
structure Parts where
  salt : Bytes
  iv : Bytes
  body : Bytes
  mac : Bytes
  salt_size : salt.length = 32
  iv_size : iv.length = 16
  body_full : body.length % 16 = 0
  body_some : body.length ≠ 0
  mac_size : mac.length = 32

def Parts.data (parts : Parts) : Bytes := parts.salt ++ parts.iv ++ parts.body ++ parts.mac

/-- The length check lets exactly these through. -/
theorem parts_of_length {data : Bytes} (long : ¬ data.length < 96)
    (full : ((data.length : Int) - 32 - 16 - 32).tmod 16 = 0) : ∃ parts : Parts, data = parts.data := by
  have whole : (data.length - 80) % 16 = 0 := by
    rw [Int.tmod_eq_emod_of_nonneg (by omega)] at full
    omega
  refine ⟨{
    salt := data.take 32
    iv := (data.drop 32).take 16
    body := ((data.drop 32).drop 16).take (data.length - 80)
    mac := ((data.drop 32).drop 16).drop (data.length - 80)
    salt_size := by simp; omega
    iv_size := by simp; omega
    body_full := by simp; omega
    body_some := by simp; omega
    mac_size := by simp; omega }, ?_⟩
  simp only [Parts.data, List.append_assoc, List.take_append_drop]

section Parts
variable (parts : Parts)

theorem Parts.length : parts.data.length = 80 + parts.body.length := by
  have salt := parts.salt_size
  have iv := parts.iv_size
  have mac := parts.mac_size
  simp only [Parts.data, List.length_append]
  omega

theorem Parts.length_auth :
    (parts.salt ++ parts.iv ++ parts.body).length = 48 + parts.body.length := by
  have salt := parts.salt_size
  have iv := parts.iv_size
  simp only [List.length_append]
  omega

theorem Parts.length_check : ¬ (parts.data.length < idKeySize + ivSize + blockSize + macSize ∨
    ((parts.data.length : Int) - idKeySize - ivSize - macSize).tmod blockSize ≠ 0) := by
  have size := parts.length
  have full := parts.body_full
  have some := parts.body_some
  unfold idKeySize ivSize blockSize macSize
  rw [Int.tmod_eq_emod_of_nonneg (by omega)]
  omega

theorem Parts.slice_salt : slice parts.data 0 idKeySize = .ok parts.salt := by
  have left : slice (parts.salt ++ (parts.iv ++ parts.body ++ parts.mac)) 0 idKeySize =
    .ok parts.salt := slice_left _ _ (by rw [parts.salt_size]; rfl)
  simpa only [Parts.data, List.append_assoc] using left

theorem Parts.slice_auth : slice parts.data 0 (parts.data.length - macSize) =
    .ok (parts.salt ++ parts.iv ++ parts.body) := by
  refine slice_left _ _ ?_
  rw [parts.length, parts.length_auth]
  unfold macSize
  omega

theorem Parts.slice_mac : slice parts.data (parts.data.length - macSize) parts.data.length =
    .ok parts.mac := by
  refine slice_right _ _ ?_ ?_
  · rw [parts.length, parts.length_auth]
    unfold macSize
    omega
  · rw [parts.length, parts.length_auth, parts.mac_size]
    omega

theorem Parts.slice_iv : slice parts.data idKeySize (idKeySize + ivSize) = .ok parts.iv := by
  have middle : slice (parts.salt ++ parts.iv ++ (parts.body ++ parts.mac)) idKeySize
      (idKeySize + ivSize) = .ok parts.iv :=
    slice_middle _ _ _ (by rw [parts.salt_size]; rfl) (by rw [parts.salt_size, parts.iv_size]; rfl)
  simpa only [Parts.data, List.append_assoc] using middle

theorem Parts.slice_body : slice (parts.salt ++ parts.iv ++ parts.body) (ivSize + idKeySize)
    (parts.salt ++ parts.iv ++ parts.body).length = .ok parts.body := by
  have front : (parts.salt ++ parts.iv).length = 48 := by
    rw [List.length_append, parts.salt_size, parts.iv_size]
  refine slice_right _ _ (by rw [front]; rfl) ?_
  rw [parts.length_auth, front]
  omega

theorem Parts.cryptBlocks_body (crypt : Bytes → Bytes) :
    cryptBlocks crypt ((parts.salt ++ parts.iv ++ parts.body).length - ivSize - idKeySize) parts.body =
      .ok (crypt parts.body) := by
  refine cryptBlocks_full crypt parts.body_full ?_
  rw [parts.length_auth]
  unfold ivSize idKeySize
  omega

end Parts

/-- What `decrypt` does with a file of an acceptable length. -/
theorem decrypt_parts {encodedFile : Bytes} (pass : String) {parts : Parts}
    (decoded : prims.decode encodedFile = .ok parts.data) :
    decrypt prims encodedFile pass = (do
      let (key, macKey, _) ← getKey prims pass (.known parts.salt)
      if parts.mac ≠ prims.hmac macKey (parts.salt ++ parts.iv ++ parts.body) then
        fail "HMAC authentication failed"
      else do
        newCipher key
        removePadding (prims.decryptBlocks key parts.iv parts.body)) := by
  unfold decrypt
  rw [decoded]
  dsimp only [returned, bind, Except.bind]
  rw [if_neg parts.length_check, parts.slice_salt]
  dsimp only
  -- Both sides stop where `getKey`, the comparison and `newCipher` do.
  cases getKey prims pass (.known parts.salt) with
  | error stop => rfl
  | ok keys =>
    dsimp only
    rw [parts.slice_auth, parts.slice_mac]
    dsimp only
    split
    · rfl
    · cases newCipher keys.1 with
      | error stop => rfl
      | ok done =>
        dsimp only
        rw [parts.slice_iv]
        dsimp only
        rw [newCBC_full parts.iv_size]
        dsimp only
        rw [parts.slice_body]
        dsimp only
        rw [parts.cryptBlocks_body]

/-- The plaintext whose encryption the parts hold, if they authenticate under the password. -/
def Opens (parts : Parts) (pass : String) (plain : Bytes) : Prop :=
  (parts.salt.length = 32 ∧ parts.salt ≠ repeated 0 32 ∧ Keyed prims pass parts.salt) ∧
    parts.mac = prims.hmac (macKey prims pass parts.salt) (parts.salt ++ parts.iv ++ parts.body) ∧
    parts.body =
      prims.encryptBlocks (cipherKey prims pass parts.salt) parts.iv (pad blockSize plain)

/-- `decrypt` opens the parts or returns an error. -/
theorem decrypt_opens {encodedFile : Bytes} (pass : String) {parts : Parts}
    (decoded : prims.decode encodedFile = .ok parts.data) :
    (∃ plain, decrypt prims encodedFile pass = .ok plain ∧ Opens prims parts pass plain) ∨
      ∃ err, decrypt prims encodedFile pass = .error (.failed err) := by
  rw [decrypt_parts prims pass decoded]
  rcases getKey_known prims pass parts.salt with ⟨keyed, ok⟩ | ⟨_, err, failed⟩
  · rw [ok]
    dsimp only [bind, Except.bind]
    split
    · exact .inr ⟨_, rfl⟩
    next same =>
      rw [newCipher_cipherKey]
      dsimp only
      have size := prims.length_decrypt (cipherKey prims pass parts.salt) parts.iv parts.body
        parts.body_full
      have full := parts.body_full
      have some := parts.body_some
      -- Full blocks went in, so full blocks come out; the cipher is undone by encrypting.
      rcases removePadding_full (by rw [size]; exact full) (by rw [size]; exact some) with
        ⟨err, failed⟩ | ⟨plain, opened, padded⟩
      · exact .inr ⟨err, failed⟩
      · refine .inl ⟨plain, opened, keyed, not_not.mp same, ?_⟩
        rw [← padded, prims.encrypt_decrypt _ _ _ (length_cipherKey prims pass parts.salt)
          parts.iv_size full]
  · rw [failed]
    exact .inr ⟨err, rfl⟩

/-- Parts that hold a plaintext's encryption open to it. -/
theorem decrypt_of_opens {encodedFile : Bytes} {pass : String} {parts : Parts} {plain : Bytes}
    (decoded : prims.decode encodedFile = .ok parts.data) (opens : Opens prims parts pass plain) :
    decrypt prims encodedFile pass = .ok plain := by
  obtain ⟨keyed, mac, body⟩ := opens
  rw [decrypt_parts prims pass decoded]
  rcases getKey_known prims pass parts.salt with ⟨_, ok⟩ | ⟨keyless, _⟩
  · rw [ok]
    dsimp only [bind, Except.bind]
    rw [if_neg (not_not.mpr mac), newCipher_cipherKey]
    dsimp only
    rw [body, prims.decrypt_encrypt _ _ _ (length_cipherKey prims pass parts.salt) parts.iv_size
      (length_pad_mod blockSize (by decide) plain), removePadding_pad]
  · exact absurd keyed keyless

/-- A file with the format's framing is made of acceptable parts. -/
theorem parts_of_framed {encodedFile : Bytes} {pass : String} {plain : Bytes}
    (framed : Framed prims encodedFile pass plain) :
    ∃ parts : Parts, prims.decode encodedFile = .ok parts.data ∧ Opens prims parts pass plain := by
  obtain ⟨accepted, salt, iv, saltSize, nonzero, ivSize, keys, decoded⟩ := framed
  have full := length_pad_mod blockSize (by decide) plain
  have size := prims.length_encrypt (cipherKey prims pass salt) iv _ full
  have added := padLength_pos blockSize (by decide) plain.length
  have total := length_pad blockSize plain
  refine ⟨{
    salt := salt
    iv := iv
    body := prims.encryptBlocks (cipherKey prims pass salt) iv (pad blockSize plain)
    mac := _
    salt_size := saltSize
    iv_size := ivSize
    body_full := by rw [size]; exact full
    body_some := by omega
    mac_size := prims.length_hmac _ _ }, decoded, ?_⟩
  exact ⟨⟨saltSize, nonzero, accepted, keys⟩, rfl, rfl⟩

theorem framed_of_opens {encodedFile : Bytes} {pass : String} {parts : Parts} {plain : Bytes}
    (decoded : prims.decode encodedFile = .ok parts.data) (opens : Opens prims parts pass plain) :
    Framed prims encodedFile pass plain := by
  obtain ⟨⟨saltSize, nonzero, accepted, keys⟩, mac, body⟩ := opens
  refine ⟨accepted, parts.salt, parts.iv, saltSize, nonzero, parts.iv_size, keys, ?_⟩
  rw [decoded, sealed, ← body, ← mac]
  rfl

/-- `decrypt` returns a plaintext or an error, for every input. -/
theorem decrypt_cases (encodedFile : Bytes) (pass : String) :
    (∃ plain, decrypt prims encodedFile pass = .ok plain ∧ Framed prims encodedFile pass plain) ∨
      ∃ err, decrypt prims encodedFile pass = .error (.failed err) := by
  cases decoded : prims.decode encodedFile with
  | error err =>
    refine .inr ⟨err, ?_⟩
    unfold decrypt
    rw [decoded]
    rfl
  | ok data =>
    -- Either the length check refuses, or the file is made of parts.
    by_cases check : data.length < 96 ∨ ((data.length : Int) - 32 - 16 - 32).tmod 16 ≠ 0
    · refine .inr ⟨.text "ciphertext has an invalid length", ?_⟩
      unfold decrypt
      rw [decoded]
      exact if_pos check
    · simp only [not_or, not_not] at check
      obtain ⟨parts, rfl⟩ := parts_of_length check.1 check.2
      rcases decrypt_opens prims pass decoded with ⟨plain, opened, opens⟩ | failed
      · exact .inl ⟨plain, opened, framed_of_opens prims decoded opens⟩
      · exact .inr failed

/-- What `encrypt` writes for a plaintext that is not empty. -/
theorem encrypt_cases (plain : Bytes) (some : plain ≠ []) (pass : String) (salt : Drawn idKeySize)
    (iv : Drawn ivSize) :
    Keyed prims pass salt.val ∧ encrypt prims plain pass (.ok salt) (.ok iv) =
        .ok (prims.encode (sealed prims pass salt.val iv.val (prims.encryptBlocks
          (cipherKey prims pass salt.val) iv.val (pad blockSize plain)))) ∨
      ¬ Keyed prims pass salt.val ∧
        ∃ err, encrypt prims plain pass (.ok salt) (.ok iv) = .error (.failed err) := by
  have nonempty : ¬ plain.length = 0 := by simpa using some
  unfold encrypt
  rw [if_neg nonempty]
  rcases getKey_salt prims pass (.drawn (.ok salt)) ⟨salt, rfl, rfl⟩ with ⟨keyed, ok⟩ |
    ⟨keyless, err, failed⟩
  · refine .inl ⟨keyed, ?_⟩
    have full := length_pad_mod blockSize (by decide) plain
    have added : blockSize - plain.length % blockSize > 0 := padLength_pos blockSize (by decide) _
    have total := length_pad blockSize plain
    have size := prims.length_encrypt (cipherKey prims pass salt.val) iv.val _ full
    -- What the source appends is the library's padding.
    have padded : plain ++ repeated (UInt8.ofNat (blockSize - plain.length % blockSize))
        (blockSize - plain.length % blockSize) = pad blockSize plain := rfl
    rw [ok]
    dsimp only [bind, Except.bind]
    rw [newCipher_cipherKey]
    dsimp only [returned]
    rw [newCBC_full iv.property]
    dsimp only
    rw [if_pos added, padded, cryptBlocks_full _ full rfl]
    dsimp only
    rw [if_neg (by omega)]
    rfl
  · rw [failed]
    exact .inr ⟨keyless, err, rfl⟩

theorem encrypt_returns (plain : Bytes) (pass : String) (salt : Except GoError (Drawn idKeySize))
    (iv : Except GoError (Drawn ivSize)) :
    (∃ encodedFile, encrypt prims plain pass salt iv = .ok encodedFile) ∨
      ∃ err, encrypt prims plain pass salt iv = .error (.failed err) := by
  by_cases empty : plain = []
  · subst empty
    exact .inr ⟨_, rfl⟩
  · have nonempty : ¬ plain.length = 0 := by simpa using empty
    cases salt with
    | error err =>
      have refused : ∃ other, getKey prims pass (.drawn (.error err)) = .error (.failed other) := by
        unfold getKey
        cases prims.validate pass with
        | some weak => exact ⟨weak, rfl⟩
        | none => exact ⟨err, rfl⟩
      obtain ⟨other, failed⟩ := refused
      refine .inr ⟨other, ?_⟩
      unfold encrypt
      rw [if_neg nonempty, failed]
      rfl
    | ok salt =>
      cases iv with
      | error err =>
        unfold encrypt
        rw [if_neg nonempty]
        rcases getKey_salt prims pass (.drawn (.ok salt)) ⟨salt, rfl, rfl⟩ with ⟨_, ok⟩ |
          ⟨_, other, failed⟩
        · rw [ok]
          dsimp only [bind, Except.bind]
          rw [newCipher_cipherKey]
          exact .inr ⟨err, rfl⟩
        · rw [failed]
          exact .inr ⟨other, rfl⟩
      | ok iv =>
        rcases encrypt_cases prims plain empty pass salt iv with ⟨_, ok⟩ | ⟨_, failed⟩
        · exact .inl ⟨_, ok⟩
        · exact .inr failed

theorem decrypt_iff (encodedFile : Bytes) (pass : String) (plain : Bytes) :
    decrypt prims encodedFile pass = .ok plain ↔ Framed prims encodedFile pass plain := by
  constructor
  · intro opened
    rcases decrypt_cases prims encodedFile pass with ⟨other, same, framed⟩ | ⟨err, failed⟩
    · rw [opened] at same
      cases same
      exact framed
    · rw [opened] at failed
      cases failed
  · intro framed
    obtain ⟨parts, decoded, opens⟩ := parts_of_framed prims framed
    exact decrypt_of_opens prims decoded opens

/-- For every file and password: `decrypt` returns a plaintext exactly when the file frames
it, and otherwise an error; no slice or block operation is out of range. So what `encrypt`
writes for a plaintext that is not empty, with a salt that is not zero, decrypts to it. -/
theorem decrypt_accepts_framing :
    (∀ encodedFile pass plain,
      decrypt prims encodedFile pass = .ok plain ↔ Framed prims encodedFile pass plain) ∧
    (∀ encodedFile pass, (¬ ∃ plain, Framed prims encodedFile pass plain) →
      ∃ err, decrypt prims encodedFile pass = .error (.failed err)) ∧
    (∀ encodedFile pass, decrypt prims encodedFile pass ≠ .error .panicked) ∧
    (∀ plain pass salt iv, encrypt prims plain pass salt iv ≠ .error .panicked) ∧
    ∀ plain pass (salt : Drawn idKeySize) (iv : Drawn ivSize), plain ≠ [] →
      salt.val ≠ repeated 0 32 →
      (∀ encodedFile, encrypt prims plain pass (.ok salt) (.ok iv) = .ok encodedFile →
        decrypt prims encodedFile pass = .ok plain) ∧
      (Keyed prims pass salt.val →
        ∃ encodedFile, encrypt prims plain pass (.ok salt) (.ok iv) = .ok encodedFile) := by
  refine ⟨decrypt_iff prims, ?_, ?_, ?_, ?_⟩
  · intro encodedFile pass unframed
    rcases decrypt_cases prims encodedFile pass with ⟨plain, _, framed⟩ | failed
    · exact absurd ⟨plain, framed⟩ unframed
    · exact failed
  · intro encodedFile pass panicked
    rcases decrypt_cases prims encodedFile pass with ⟨plain, opened, _⟩ | ⟨err, failed⟩
    · rw [panicked] at opened
      cases opened
    · rw [panicked] at failed
      cases failed
  · intro plain pass salt iv panicked
    rcases encrypt_returns prims plain pass salt iv with ⟨_, ok⟩ | ⟨_, failed⟩
    · rw [panicked] at ok
      cases ok
    · rw [panicked] at failed
      cases failed
  · intro plain pass salt iv some nonzero
    rcases encrypt_cases prims plain some pass salt iv with ⟨keyed, ok⟩ | ⟨keyless, err, failed⟩
    · refine ⟨fun encodedFile written => ?_, fun _ => ⟨_, ok⟩⟩
      rw [ok] at written
      cases written
      refine (decrypt_iff prims _ pass plain).mpr ⟨keyed.1, salt.val, iv.val, salt.property, nonzero,
        iv.property, keyed.2, ?_⟩
      exact prims.decode_encode _
    · refine ⟨fun encodedFile written => ?_, fun keyed => absurd keyed keyless⟩
      rw [failed] at written
      cases written

end Format

/-- `validator.MinLength(8, nil)`, which counts bytes, and `validator.CommonPassword(nil)` with
the head of its list. -/
def passwordPolicy (pass : String) : Option GoError :=
  if (utf8 pass).length < 8 then some (.text "the password is too short")
  else if pass ∈ ["password", "12345678", "123456789", "qwertyuiop"] then
    some (.text "the password is a common one")
  else none

/-- `base64.StdEncoding`. -/
def decodeBase64 (text : Bytes) : Except GoError Bytes :=
  match Base64.decode text with
  | .ok data => .ok data
  | .error position => .error (.text ("illegal base64 data at input byte " ++ toString position))

/-- A cipher that adds the key and the vector, over and over, bit by bit. -/
def mask (key iv data : Bytes) : Bytes :=
  data.mapIdx fun i byte => byte ^^^ (key ++ iv).getD (i % 48) 0

theorem mask_mask (key iv data : Bytes) : mask key iv (mask key iv data) = data := by
  apply List.ext_getElem?
  intro i
  simp [mask, Function.comp_def, UInt8.xor_assoc]

/-- Primitives that satisfy the laws, with the policy and base64 as they are. The others mix
what they are given only lightly: the keys repeat the password and the salt, and the digest is a
row of sums. -/
def lightPrimitives : Primitives where
  validate := passwordPolicy
  idKey pass salt _ _ _ keyLen :=
    let seed := utf8 pass ++ salt
    (List.range keyLen).map fun i => seed.getD (i % seed.length) 0
  encryptBlocks := mask
  decryptBlocks := mask
  hmac key data := (List.range 32).map fun i =>
    ((key ++ data).zipIdx.filter fun entry => entry.2 % 32 = i).foldl (fun sum entry => sum + entry.1) 0
  encode := Base64.encode
  decode := decodeBase64
  length_idKey := by simp
  length_encrypt := by simp [mask]
  length_decrypt := by simp [mask]
  decrypt_encrypt key iv data _ _ _ := mask_mask key iv data
  encrypt_decrypt key iv data _ _ _ := mask_mask key iv data
  length_hmac := by simp
  decode_encode data := by simp [decodeBase64, Base64.decode_encode]

theorem decrypt_accepts_framing_three_bytes :
    let salt : Drawn idKeySize := ⟨repeated 5 32, by decide⟩
    let iv : Drawn ivSize := ⟨repeated 9 16, by decide⟩
    ∃ encodedFile, encrypt lightPrimitives [1, 2, 3] "correct horse" (.ok salt) (.ok iv) = .ok encodedFile ∧
      decrypt lightPrimitives encodedFile "correct horse" = .ok [1, 2, 3] := by
  intro salt iv
  obtain ⟨opens, writes⟩ := (decrypt_accepts_framing lightPrimitives).2.2.2.2 [1, 2, 3] "correct horse" salt iv
    (by decide) (by decide)
  obtain ⟨encodedFile, written⟩ := writes ⟨by decide, by decide⟩
  exact ⟨encodedFile, written, opens encodedFile written⟩

end Seer.Encryption
