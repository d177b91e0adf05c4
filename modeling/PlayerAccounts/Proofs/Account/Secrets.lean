import Mathlib.Tactic.ByContra
import PlayerAccounts.Account.Draw
import PlayerAccounts.Proofs.Text.Ascii
/-!
# Secrets

Drawn salts and tokens have a fixed number of bytes. A password that was sealed is recognised again: the
check reads cost and digest back out of the hash, so it lets in the passwords that have this hash with
this salt at this cost, and no others.
-/
namespace PlayerAccounts.Account
set_option autoImplicit false

open PlayerAccounts.Text

/-! ## Drawn texts -/

theorem length_lowDigits (alphabet : List Char) (count n : Nat) :
    (lowDigits alphabet count n).length = count := by
  induction count generalizing n with
  | zero => rfl
  | succ count ih => exact congrArg (· + 1) (ih _)

theorem mem_of_mem_lowDigits {alphabet : List Char} (hne : alphabet ≠ []) {count n : Nat} {c : Char}
    (hc : c ∈ lowDigits alphabet count n) : c ∈ alphabet := by
  induction count generalizing n with
  | zero => cases hc
  | succ count ih =>
    rcases List.mem_cons.mp hc with rfl | hc
    · have hlt : n % alphabet.length < alphabet.length := Nat.mod_lt n (List.length_pos_iff.mpr hne)
      rw [List.getD_eq_getElem?_getD, List.getElem?_eq_getElem hlt, Option.getD_some]
      exact List.getElem_mem hlt
    · exact ih hc

/-- Every drawn salt has the form of one. -/
theorem isSalt_drawnSalt (n : Nat) : isSalt (drawnSalt n) = true := by
  have hall : alphanumerics.all isAlphanumeric = true := by decide +kernel
  rw [isSalt, drawnSalt, String.length_ofList, String.toList_ofList, length_lowDigits, beq_self_eq_true,
    Bool.true_and, List.all_eq_true]
  exact fun c hc => List.all_eq_true.mp hall c (mem_of_mem_lowDigits (by decide +kernel) hc)

theorem toNat_of_isAlphanumeric {c : Char} (hc : isAlphanumeric c = true) : c.toNat < 128 := by
  simp only [isAlphanumeric, Bool.or_eq_true, Bool.and_eq_true, decide_eq_true_eq, Char.le_def,
    UInt32.le_iff_toNat_le] at hc
  change c.val.toNat < 128
  rcases hc with (⟨_, hle⟩ | ⟨_, hle⟩) | ⟨_, hle⟩
  · exact Nat.lt_of_le_of_lt hle (by decide)
  · exact Nat.lt_of_le_of_lt hle (by decide)
  · exact Nat.lt_of_le_of_lt hle (by decide)

theorem utf8ByteSize_of_alphanumeric {s : String} (hs : s.toList.all isAlphanumeric = true) :
    s.utf8ByteSize = s.length := by
  rw [List.all_eq_true] at hs
  exact utf8ByteSize_of_ascii fun c hc => toNat_of_isAlphanumeric (hs c hc)

theorem utf8ByteSize_of_isToken {token : String} (ht : isToken token = true) :
    token.utf8ByteSize = tokenLength := by
  rw [isToken, Bool.and_eq_true, beq_iff_eq] at ht
  rw [utf8ByteSize_of_alphanumeric ht.2, ht.1]

theorem utf8ByteSize_of_isSalt {salt : String} (hs : isSalt salt = true) :
    salt.utf8ByteSize = saltBytes := by
  rw [isSalt, Bool.and_eq_true, beq_iff_eq] at hs
  rw [utf8ByteSize_of_alphanumeric hs.2, hs.1]

/-! ## Comparing bytes -/

theorem bytesOf_inj {s t : String} : bytesOf s = bytesOf t ↔ s = t := by
  rw [bytesOf, bytesOf, utf8Bytes_inj, String.toList_inj]

theorem length_bytesOf (s : String) : (bytesOf s).length = s.utf8ByteSize := (utf8ByteSize_eq s).symm

/-- What a comparison gathers: the bits in which bytes in the same place differ. -/
def gathered (left right : List UInt8) : UInt8 :=
  (left.zip right).foldl (fun difference (l, r) => difference ||| (l ^^^ r)) 0

theorem sameBytes_iff_gathered (left right : List UInt8) :
    sameBytes left right = true ↔ left.length = right.length ∧ gathered left right = 0 := by
  rw [sameBytes, Bool.and_eq_true, beq_iff_eq, beq_iff_eq]
  rfl

/-- The bits of a pair stay, whatever was gathered before it. -/
theorem foldl_difference (pairs : List (UInt8 × UInt8)) (d : UInt8) :
    pairs.foldl (fun difference (l, r) => difference ||| (l ^^^ r)) d = 0 ↔
      d = 0 ∧ ∀ p ∈ pairs, p.1 = p.2 := by
  induction pairs generalizing d with
  | nil => simp
  | cons p pairs ih =>
    have hor : (d ||| (p.1 ^^^ p.2)) = 0 ↔ d = 0 ∧ p.1 = p.2 := by
      rw [UInt8.or_eq_zero_iff, UInt8.xor_eq_zero_iff]
    rw [List.foldl_cons, ih, hor, List.forall_mem_cons, and_assoc]

theorem gathered_eq_zero_iff (left right : List UInt8) :
    gathered left right = 0 ↔ ∀ i (hl : i < left.length) (hr : i < right.length), left[i] = right[i] := by
  rw [gathered, foldl_difference]
  constructor
  · rintro ⟨-, hpairs⟩ i hl hr
    have hz : i < (left.zip right).length := by rw [List.length_zip]; omega
    have hp := hpairs _ (List.getElem_mem hz)
    rwa [List.getElem_zip] at hp
  · intro hagree
    refine ⟨rfl, fun p hp => ?_⟩
    obtain ⟨i, hi, rfl⟩ := List.getElem_of_mem hp
    rw [List.length_zip] at hi
    simp [hagree i (by omega) (by omega)]

theorem sameBytes_iff (left right : List UInt8) : sameBytes left right = true ↔ left = right := by
  rw [sameBytes_iff_gathered, gathered_eq_zero_iff]
  constructor
  · rintro ⟨hlen, hagree⟩
    exact List.ext_getElem hlen hagree
  · rintro rfl
    exact ⟨rfl, fun _ _ _ => rfl⟩

theorem agree_iff_isPrefix {left right : List UInt8} :
    (∀ i (hl : i < left.length) (hr : i < right.length), left[i] = right[i]) ↔
      left <+: right ∨ right <+: left := by
  rw [List.prefix_iff_getElem, List.prefix_iff_getElem]
  constructor
  · intro hagree
    rcases Nat.le_total left.length right.length with hle | hle
    · exact .inl ⟨hle, fun i hi => hagree i hi (by omega)⟩
    · exact .inr ⟨hle, fun i hi => (hagree i (by omega) hi).symm⟩
  · rintro (⟨_, hagree⟩ | ⟨_, hagree⟩) i hl hr
    · exact hagree i hl
    · exact (hagree i hr).symm

/-- Texts are taken for the same exactly if they have the same bytes, and so are the same: if they are of
one length and nothing is gathered. Nothing is gathered exactly if no position that both have differs. That
is so too where one text goes on after the end of the other, and there their lengths tell them apart. -/
theorem comparison_tells_texts_apart (left right : String) :
    (sameBytes (bytesOf left) (bytesOf right) = true ↔ bytesOf left = bytesOf right) ∧
      (bytesOf left = bytesOf right ↔ left = right) ∧
      (sameBytes (bytesOf left) (bytesOf right) = true ↔
        left.utf8ByteSize = right.utf8ByteSize ∧ gathered (bytesOf left) (bytesOf right) = 0) ∧
      (gathered (bytesOf left) (bytesOf right) = 0 ↔
        ∀ i (hl : i < (bytesOf left).length) (hr : i < (bytesOf right).length),
          (bytesOf left)[i] = (bytesOf right)[i]) ∧
      (gathered (bytesOf left) (bytesOf right) = 0 ↔
        bytesOf left <+: bytesOf right ∨ bytesOf right <+: bytesOf left) ∧
      (left.utf8ByteSize ≠ right.utf8ByteSize → sameBytes (bytesOf left) (bytesOf right) = false) := by
  have hgathered := gathered_eq_zero_iff (bytesOf left) (bytesOf right)
  have hsame : sameBytes (bytesOf left) (bytesOf right) = true ↔
      left.utf8ByteSize = right.utf8ByteSize ∧ gathered (bytesOf left) (bytesOf right) = 0 := by
    rw [sameBytes_iff_gathered, length_bytesOf, length_bytesOf]
  refine ⟨sameBytes_iff .., bytesOf_inj, hsame, hgathered, hgathered.trans agree_iff_isPrefix, ?_⟩
  intro hsize
  exact eq_false_of_ne_true fun heq => hsize (hsame.mp heq).1

/-- A hash and what is left of it when its last character is lost. -/
theorem shortened_hash_told_apart :
    let hash := "$2b$04$WUHhXETkX0fnYkrqZU3ta.zcmUrocmI6GiV1XHHkfwFuAlE9bajm6"
    let shortened := "$2b$04$WUHhXETkX0fnYkrqZU3ta.zcmUrocmI6GiV1XHHkfwFuAlE9bajm"
    hash.utf8ByteSize ≠ shortened.utf8ByteSize ∧ sameBytes (bytesOf hash) (bytesOf shortened) = false ∧
      gathered (bytesOf hash) (bytesOf shortened) = 0 := by
  intro hash shortened
  obtain ⟨-, -, -, -, hgathered, hlengths⟩ := comparison_tells_texts_apart hash shortened
  have hsize : hash.utf8ByteSize ≠ shortened.utf8ByteSize := by decide +kernel
  have hbegins : bytesOf shortened <+: bytesOf hash := by decide +kernel
  exact ⟨hsize, hlengths hsize, hgathered.mpr (.inr hbegins)⟩

/-! ## Places in a hash -/

theorem dropBytes?_ascii {before : List Char} (hb : ∀ c ∈ before, c.toNat < 128) (s : List Char) :
    dropBytes? before.length (before ++ s) = some s := by
  induction before with
  | nil => rw [List.length_nil, List.nil_append, dropBytes?]
  | cons c before ih =>
    have hc : c.utf8Size = 1 := utf8Size_of_ascii (hb c List.mem_cons_self)
    rw [List.length_cons, List.cons_append, dropBytes?, if_pos (by omega), hc, Nat.add_sub_cancel]
    exact ih fun d hd => hb d (List.mem_cons_of_mem c hd)

theorem takeBytes?_ascii {before : List Char} (hb : ∀ c ∈ before, c.toNat < 128) (s : List Char) :
    takeBytes? before.length (before ++ s) = some before := by
  rw [takeBytes?, dropBytes?_ascii hb, Option.map_some, List.length_append, Nat.add_sub_cancel_right,
    List.take_left]

theorem isCost_iff (cost : Nat) : isCost cost = true ↔ 4 ≤ cost ∧ cost ≤ 31 := by
  rw [isCost, Bool.and_eq_true, decide_eq_true_eq, decide_eq_true_eq]
  rfl

/-- Two digits are enough for every cost. -/
theorem readUnsigned?_costText {cost : Nat} (hc : isCost cost = true) :
    readUnsigned? maxWord32 (Bcrypt.costText cost) = some cost := by
  have hall : ∀ n < 32, readUnsigned? maxWord32 (Bcrypt.costText n) = some n := by decide
  exact hall cost (by have := (isCost_iff cost).mp hc; omega)

theorem costText_ascii {cost : Nat} (hc : isCost cost = true) :
    ∀ c ∈ Bcrypt.costText cost, c.toNat < 128 := by
  have hall : ∀ n < 32, (Bcrypt.costText n).all (·.toNat < 128) = true := by decide
  have hcost : (Bcrypt.costText cost).all (·.toNat < 128) = true :=
    hall cost (by have := (isCost_iff cost).mp hc; omega)
  simpa using hcost

theorem version_ascii : ∀ c ∈ ['$', '2', 'b', '$'], c.toNat < 128 := by
  simp

section Hash
variable {cost : Nat} (hc : isCost cost = true) (password salt : List UInt8)
include hc

theorem storedCost?_hashText : storedCost? (Bcrypt.hashText cost password salt) = some cost := by
  have hdrop : dropBytes? 4 (Bcrypt.hashText cost password salt) =
      some (Bcrypt.costText cost ++ '$' :: Bcrypt.tail cost password salt) :=
    dropBytes?_ascii version_ascii _
  have htake : takeBytes? 2 (Bcrypt.costText cost ++ '$' :: Bcrypt.tail cost password salt) =
      some (Bcrypt.costText cost) := takeBytes?_ascii (costText_ascii hc) _
  rw [storedCost?, hdrop, Option.bind_eq_bind, Option.bind_some, htake, Option.bind_some,
    readUnsigned?_costText hc]

/-- Something stands behind the cost of a hash that is computed, so a check never compares an empty text in
its place. -/
theorem storedTail?_hashText :
    storedTail? (Bcrypt.hashText cost password salt) = some (Bcrypt.tail cost password salt) := by
  have hbefore : ∀ c ∈ ['$', '2', 'b', '$'] ++ Bcrypt.costText cost ++ ['$'], c.toNat < 128 := by
    intro c hm
    rcases List.mem_append.mp hm with hm | hm
    · rcases List.mem_append.mp hm with hm | hm
      · exact version_ascii c hm
      · exact costText_ascii hc c hm
    · rw [List.mem_singleton.mp hm]
      decide
  have hdrop := dropBytes?_ascii hbefore (Bcrypt.tail cost password salt)
  rw [List.append_assoc, List.append_assoc] at hdrop
  exact hdrop

end Hash

theorem hashText_inj {cost : Nat} {password other salt : List UInt8} :
    Bcrypt.hashText cost password salt = Bcrypt.hashText cost other salt ↔
      Bcrypt.tail cost password salt = Bcrypt.tail cost other salt := by
  simp [Bcrypt.hashText]

/-! ## Sealing and checking -/

theorem hashPassword_ok {cost : Nat} {password salt : String}
    (hlen : password.utf8ByteSize ≤ maxPasswordBytes) (hsalt : salt.utf8ByteSize = saltBytes)
    (hc : isCost cost = true) : hashPassword cost password salt =
      .ok (String.ofList (Bcrypt.hashText cost (bytesOf password) (bytesOf salt))) := by
  unfold hashPassword rawSalt
  rw [if_neg (Nat.not_lt.mpr hlen), if_pos hsalt]
  exact if_pos hc

theorem hashPassword_ok_iff {cost : Nat} {password salt hash : String} :
    hashPassword cost password salt = .ok hash ↔
      password.utf8ByteSize ≤ maxPasswordBytes ∧ salt.utf8ByteSize = saltBytes ∧ isCost cost = true ∧
        String.ofList (Bcrypt.hashText cost (bytesOf password) (bytesOf salt)) = hash := by
  constructor
  · intro hh
    have hlen : password.utf8ByteSize ≤ maxPasswordBytes := by
      by_contra hlong
      rw [hashPassword, if_pos (Nat.not_le.mp hlong)] at hh
      cases hh
    have hsalt : salt.utf8ByteSize = saltBytes := by
      by_contra hno
      rw [hashPassword, if_neg (Nat.not_lt.mpr hlen), rawSalt, if_neg hno] at hh
      cases hh
    have hc : isCost cost = true := by
      by_contra hno
      rw [hashPassword, if_neg (Nat.not_lt.mpr hlen), rawSalt, if_pos hsalt] at hh
      change (if isCost cost = true then _ else _) = _ at hh
      rw [if_neg hno] at hh
      cases hh
    rw [hashPassword_ok hlen hsalt hc] at hh
    exact ⟨hlen, hsalt, hc, Except.ok.inj hh⟩
  · rintro ⟨hlen, hsalt, hc, rfl⟩
    exact hashPassword_ok hlen hsalt hc

/-- A hash names the cost at which it was made. -/
theorem storedCost?_of_hash {cost : Nat} {password salt hash : String}
    (hh : hashPassword cost password salt = .ok hash) : storedCost? hash.toList = some cost := by
  obtain ⟨-, -, hc, rfl⟩ := hashPassword_ok_iff.mp hh
  rw [String.toList_ofList, storedCost?_hashText hc]

theorem checkPassword_hashText {cost : Nat} {salt : String} (hsalt : salt.utf8ByteSize = saltBytes)
    (hc : isCost cost = true) (sealed raw : List UInt8) (password : String) :
    checkPassword password (String.ofList (Bcrypt.hashText cost sealed raw)) salt =
      if maxPasswordBytes < password.utf8ByteSize then .ok false
      else .ok (sameBytes (utf8Bytes (Bcrypt.tail cost (bytesOf password) (bytesOf salt)))
        (utf8Bytes (Bcrypt.tail cost sealed raw))) := by
  rw [checkPassword, rawSalt, if_pos hsalt]
  change (if maxPasswordBytes < password.utf8ByteSize then _ else _) = _
  split
  · rfl
  · rw [String.toList_ofList]
    simp only [storedCost?_hashText hc, storedTail?_hashText hc]
    refine (if_pos hc).trans ?_
    rw [storedTail?_hashText hc, Option.getD_some]
    rfl

/-- A hash that was made can be checked with every salt of the right length. -/
theorem exists_fits_of_hash {cost : Nat} {sealed salt salt' hash : String}
    (hh : hashPassword cost sealed salt = .ok hash) (hsalt' : salt'.utf8ByteSize = saltBytes)
    (password : String) : ∃ fits, checkPassword password hash salt' = .ok fits := by
  obtain ⟨-, -, hc, rfl⟩ := hashPassword_ok_iff.mp hh
  rw [checkPassword_hashText hsalt' hc]
  split
  · exact ⟨false, rfl⟩
  · exact ⟨_, rfl⟩

theorem checkPassword_iff {cost : Nat} {sealed salt hash : String}
    (hh : hashPassword cost sealed salt = .ok hash) (password : String) :
    checkPassword password hash salt = .ok true ↔ hashPassword cost password salt = .ok hash := by
  obtain ⟨-, hsalt, hc, rfl⟩ := hashPassword_ok_iff.mp hh
  rw [checkPassword_hashText hsalt hc, hashPassword_ok_iff, String.ofList_inj, hashText_inj]
  split
  · rename_i hlong
    constructor
    · intro hno
      cases hno
    · intro hp
      exact absurd hp.1 (Nat.not_le.mpr hlong)
  · rename_i hlen
    rw [Except.ok.injEq, sameBytes_iff, utf8Bytes_inj]
    exact ⟨fun he => ⟨Nat.not_lt.mp hlen, hsalt, hc, he⟩, fun hp => hp.2.2.2⟩

theorem utf8ByteSize_of_unbroken {password : String} (hp : brokenByPassword? password = none) :
    password.utf8ByteSize ≤ maxPasswordBytes := by
  by_contra hlong
  rw [brokenByPassword?, if_pos (Nat.not_le.mp hlong)] at hp
  split at hp <;> cases hp

/-- A password that may be set can be sealed with a drawn salt. -/
theorem sealPassword_of_rules {cost : Nat} {password salt : String} (hc : isCost cost = true)
    (hp : brokenByPassword? password = none) (hs : isSalt salt = true) :
    ∃ secret, sealPassword cost password salt = .ok secret := by
  rw [sealPassword, hashPassword_ok (utf8ByteSize_of_unbroken hp) (utf8ByteSize_of_isSalt hs) hc]
  exact ⟨_, rfl⟩

/-- What a sealed password consists of: the hash, and the salt with which it was made. -/
theorem sealPassword_eq {cost : Nat} {password salt : String} {secret : SealedPassword}
    (hs : sealPassword cost password salt = .ok secret) :
    secret.salt = salt ∧ hashPassword cost password salt = .ok secret.hash := by
  rw [sealPassword] at hs
  cases hh : hashPassword cost password salt with
  | error fault =>
    rw [hh] at hs
    cases hs
  | ok hash =>
    rw [hh] at hs
    cases hs
    exact ⟨rfl, rfl⟩

theorem hash_of_sealPassword {cost : Nat} {password salt : String} {secret : SealedPassword}
    (hs : sealPassword cost password salt = .ok secret) :
    hashPassword cost password secret.salt = .ok secret.hash := by
  obtain ⟨hsalt, hhash⟩ := sealPassword_eq hs
  rwa [hsalt]

end PlayerAccounts.Account
