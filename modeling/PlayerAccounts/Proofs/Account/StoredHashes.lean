import PlayerAccounts.Proofs.Account.Forms
/-!
# Stored hashes

What a check of a password accepts, for any stored text: a hash of the right length, which carries the salt
it is checked with and a cost, and which goes on as the password's own hash does. A hash that was made is
recognised, at whatever cost other hashes are made.
-/
namespace PlayerAccounts.Account
set_option autoImplicit false

open PlayerAccounts.Bcrypt (encode64 hashText tail)
open PlayerAccounts.Text

/-! ## Places in a text and in its bytes -/

theorem exists_before_of_dropBytes? {n : Nat} {s rest : List Char} (h : dropBytes? n s = some rest) :
    ∃ before, s = before ++ rest ∧ (utf8Bytes before).length = n := by
  fun_induction dropBytes? n s with
  | case1 s => exact ⟨[], by rw [← Option.some.inj h]; rfl, rfl⟩
  | case2 n => cases h
  | case3 n c s hfits ih =>
    obtain ⟨before, hs, hlen⟩ := ih h
    refine ⟨c :: before, by rw [hs, List.cons_append], ?_⟩
    have hcons : utf8Bytes (c :: before) = String.utf8EncodeChar c ++ utf8Bytes before := List.flatMap_cons
    rw [hcons, List.length_append, String.length_utf8EncodeChar, hlen]
    omega
  | case4 n c s hcut => cases h

section Places
variable {n : Nat} {s part : List Char}

theorem drop_of_dropBytes? (h : dropBytes? n s = some part) : (utf8Bytes s).drop n = utf8Bytes part := by
  obtain ⟨before, rfl, rfl⟩ := exists_before_of_dropBytes? h
  rw [utf8Bytes_append, List.drop_left]

theorem length_of_dropBytes? (h : dropBytes? n s = some part) :
    (utf8Bytes s).length = n + (utf8Bytes part).length := by
  obtain ⟨before, rfl, rfl⟩ := exists_before_of_dropBytes? h
  rw [utf8Bytes_append, List.length_append]

theorem take_of_takeBytes? (h : takeBytes? n s = some part) : utf8Bytes part = (utf8Bytes s).take n := by
  obtain ⟨rest, hrest, rfl⟩ := Option.map_eq_some_iff.mp h
  obtain ⟨before, rfl, rfl⟩ := exists_before_of_dropBytes? hrest
  rw [List.length_append, Nat.add_sub_cancel_right, List.take_left, utf8Bytes_append, List.take_left]

end Places

/-! ## What a check accepts -/

theorem checkPassword_true_iff {password hash salt : String} :
    checkPassword password hash salt = .ok true ↔
      salt.utf8ByteSize = saltBytes ∧ password.utf8ByteSize ≤ maxPasswordBytes ∧ ∃ cost,
        storedCost? hash.toList = some cost ∧ hasVersion hash.toList = true ∧ isCost cost = true ∧
          storedTail? hash.toList = some (tail cost (bytesOf password) (bytesOf salt)) := by
  constructor
  · intro h
    have hsalt : salt.utf8ByteSize = saltBytes := by
      by_contra hno
      rw [checkPassword, rawSalt, if_neg hno] at h
      cases h
    rw [checkPassword, rawSalt, if_pos hsalt] at h
    change (if maxPasswordBytes < password.utf8ByteSize then _ else _) = _ at h
    split at h
    · cases h
    rename_i hlen
    refine ⟨hsalt, Nat.not_lt.mp hlen, ?_⟩
    split at h
    · rename_i cost stored hcost hversion hstored
      split at h
      · rename_i hc
        have hsame := (sameBytes_iff _ _).mp (Except.ok.inj h)
        rw [storedTail?_hashText hc, Option.getD_some] at hsame
        exact ⟨cost, hcost, hversion, hc, by rw [hstored, utf8Bytes_inj.mp hsame]⟩
      · cases h
    · cases h
  · rintro ⟨hsalt, hlen, cost, hcost, hversion, hc, hstored⟩
    rw [checkPassword, rawSalt, if_pos hsalt]
    change (if maxPasswordBytes < password.utf8ByteSize then _ else _) = _
    rw [if_neg (Nat.not_lt.mpr hlen)]
    simp only [hcost, hversion, hstored, storedTail?_hashText hc, Option.getD_some]
    rw [if_pos hc, (sameBytes_iff _ _).mpr rfl]
    rfl

/-- Why a check does not let a password in: what is stored has no salt, no hash or no possible cost, or the
password is too long or another one. -/
inductive Unfit (password hash salt : String) : Prop where
  | malformedSalt : salt.utf8ByteSize ≠ saltBytes → Unfit password hash salt
  | tooLong : maxPasswordBytes < password.utf8ByteSize → Unfit password hash salt
  | malformedHash : storedCost? hash.toList = none ∨ hasVersion hash.toList = false ∨
    storedTail? hash.toList = none → Unfit password hash salt
  | noSuchCost {cost : Nat} : storedCost? hash.toList = some cost → isCost cost = false →
    Unfit password hash salt
  | anotherPassword {cost : Nat} : storedCost? hash.toList = some cost →
    storedTail? hash.toList ≠ some (tail cost (bytesOf password) (bytesOf salt)) → Unfit password hash salt

theorem unfit_iff {password hash salt : String} :
    Unfit password hash salt ↔ checkPassword password hash salt ≠ .ok true := by
  rw [Ne, checkPassword_true_iff]
  constructor
  · rintro hunfit ⟨hsalt, hlen, cost, hcost, hversion, hc, hstored⟩
    cases hunfit with
    | malformedSalt hno => exact hno hsalt
    | tooLong hlong => omega
    | malformedHash hno => simp [hcost, hversion, hstored] at hno
    | noSuchCost hother hno =>
      obtain rfl := Option.some.inj (hcost.symm.trans hother)
      simp [hc] at hno
    | anotherPassword hother hno =>
      obtain rfl := Option.some.inj (hcost.symm.trans hother)
      exact hno hstored
  · intro hno
    by_contra hfit
    have hsalt : salt.utf8ByteSize = saltBytes := by_contra fun h => hfit (.malformedSalt h)
    have hlen : password.utf8ByteSize ≤ maxPasswordBytes := by
      by_contra hlong
      exact hfit (.tooLong (Nat.not_le.mp hlong))
    obtain ⟨cost, hcost⟩ : ∃ cost, storedCost? hash.toList = some cost :=
      Option.ne_none_iff_exists'.mp fun h => hfit (.malformedHash (.inl h))
    have hversion : hasVersion hash.toList = true :=
      eq_true_of_ne_false fun h => hfit (.malformedHash (.inr (.inl h)))
    have hc : isCost cost = true := eq_true_of_ne_false fun h => hfit (.noSuchCost hcost h)
    have hstored := by_contra fun h => hfit (.anotherPassword hcost h)
    exact hno ⟨hsalt, hlen, cost, hcost, hversion, hc, hstored⟩

/-- What a stored hash that passes a check says of cost and salt, byte by byte. -/
structure Binds (hash salt : String) (cost : Nat) : Prop where
  length : (bytesOf hash).length = 60
  version : (bytesOf hash).take 2 = bytesOf "$2"
  cost : ∃ digits : String, bytesOf digits = ((bytesOf hash).drop 4).take 2 ∧
    readUnsigned? maxWord32 digits.toList = some cost
  salt : ((bytesOf hash).drop 7).take 22 = utf8Bytes (encode64 (bytesOf salt))

theorem toNat_of_isPrintable {c : Char} (hc : isPrintable c = true) : c.toNat < 128 := by
  simp only [isPrintable, Bool.and_eq_true, decide_eq_true_eq] at hc
  omega

theorem length_utf8Bytes_of_printable {s : List Char} (hs : s.all isPrintable = true) :
    (utf8Bytes s).length = s.length := by
  rw [utf8Bytes_of_ascii fun c hc => toNat_of_isPrintable (List.all_eq_true.mp hs c hc), List.length_map]

theorem take_bytesOf_of_hasVersion {hash : String} (h : hasVersion hash.toList = true) :
    (bytesOf hash).take 2 = bytesOf "$2" := by
  rw [hasVersion, beq_iff_eq] at h
  have hbytes : bytesOf hash = bytesOf "$2" ++ utf8Bytes (hash.toList.drop 2) := by
    rw [bytesOf, ← List.take_append_drop 2 hash.toList, h, utf8Bytes_append]
    rfl
  rw [hbytes]
  exact List.take_left' (by decide +kernel)

theorem digits_of_storedCost? {hash : String} {cost : Nat} (h : storedCost? hash.toList = some cost) :
    ∃ digits : String, bytesOf digits = ((bytesOf hash).drop 4).take 2 ∧
      readUnsigned? maxWord32 digits.toList = some cost := by
  obtain ⟨rest, hrest, h⟩ := Option.bind_eq_some_iff.mp h
  obtain ⟨digits, hdigits, h⟩ := Option.bind_eq_some_iff.mp h
  refine ⟨String.ofList digits, ?_, by rwa [String.toList_ofList]⟩
  rw [bytesOf, String.toList_ofList, take_of_takeBytes? hdigits, bytesOf, drop_of_dropBytes? hrest]

section Check
variable {cost : Nat} {password salt hash : String}

theorem bytes_of_storedTail? (hsalt : salt.utf8ByteSize = saltBytes)
    (h : storedTail? hash.toList = some (tail cost (bytesOf password) (bytesOf salt))) :
    (bytesOf hash).length = 60 ∧ ((bytesOf hash).drop 7).take 22 = utf8Bytes (encode64 (bytesOf salt)) := by
  have hraw : (bytesOf salt).length = 16 := (length_bytesOf salt).trans hsalt
  constructor
  · rw [bytesOf, length_of_dropBytes? h, length_utf8Bytes_of_printable (all_tail cost _), length_tail _ _ hraw]
  · have hlen : (utf8Bytes (encode64 (bytesOf salt))).length = 22 := by
      rw [length_utf8Bytes_of_printable (all_encode64 _), length_encode64, hraw]
    rw [bytesOf, drop_of_dropBytes? h, tail, utf8Bytes_append, ← hlen, List.take_left]

theorem binds_of_check (h : checkPassword password hash salt = .ok true) :
    ∃ cost, isCost cost = true ∧ Binds hash salt cost ∧
      (bytesOf hash).drop 7 = utf8Bytes (tail cost (bytesOf password) (bytesOf salt)) := by
  obtain ⟨hsalt, -, cost, hcost, hversion, hc, hstored⟩ := checkPassword_true_iff.mp h
  obtain ⟨hlength, hsaltText⟩ := bytes_of_storedTail? hsalt hstored
  exact ⟨cost, hc, ⟨hlength, take_bytesOf_of_hasVersion hversion, digits_of_storedCost? hcost, hsaltText⟩,
    drop_of_dropBytes? hstored⟩

/-- A hash says which salt it was made with. -/
theorem Binds.salt_unique {salt' : String} {cost' : Nat} (h : Binds hash salt cost)
    (h' : Binds hash salt' cost') : salt = salt' := by
  have hbytes : utf8Bytes (encode64 (bytesOf salt)) = utf8Bytes (encode64 (bytesOf salt')) :=
    h.salt.symm.trans h'.salt
  exact bytesOf_inj.mp (encode64_inj.mp (utf8Bytes_inj.mp hbytes))

theorem drop_bytes_of_hash (hh : hashPassword cost password salt = .ok hash) :
    (bytesOf hash).drop 7 = utf8Bytes (tail cost (bytesOf password) (bytesOf salt)) := by
  obtain ⟨-, -, hc, rfl⟩ := hashPassword_ok_iff.mp hh
  have hstored := storedTail?_hashText hc (bytesOf password) (bytesOf salt)
  rw [bytesOf, String.toList_ofList, drop_of_dropBytes? hstored]

/-- The only salt with which a check can succeed is the one that the hash was made with. -/
theorem checkPassword_other_salt {salt' : String} (hh : hashPassword cost password salt = .ok hash)
    (hsalt' : salt'.utf8ByteSize = saltBytes) (hne : salt ≠ salt') (other : String) :
    checkPassword other hash salt' = .ok false := by
  obtain ⟨fits, hfits⟩ := exists_fits_of_hash hh hsalt' other
  cases fits with
  | false => exact hfits
  | true =>
    obtain ⟨_, -, hbinds, -⟩ := binds_of_check ((checkPassword_iff hh password).mpr hh)
    obtain ⟨_, -, hbinds', -⟩ := binds_of_check hfits
    exact absurd (hbinds.salt_unique hbinds') hne

end Check

/-! ## The results -/

/-- A check succeeds only for a password, a hash and a salt of the right lengths, where the hash names a cost,
carries the salt, and agrees behind the cost with the password's own hash. So no hash passes with two
salts, a hash that was made passes with no salt but its own, and too short a text passes with none. -/
theorem checks_bind_hash_and_salt (password hash salt : String) :
    (checkPassword password hash salt = .ok true →
      salt.utf8ByteSize = 16 ∧ password.utf8ByteSize ≤ 72 ∧ ∃ cost, 4 ≤ cost ∧ cost ≤ 31 ∧
        Binds hash salt cost ∧ ∃ made, hashPassword cost password salt = .ok made ∧
          (bytesOf hash).drop 7 = (bytesOf made).drop 7) ∧
      (∀ other salt', checkPassword password hash salt = .ok true →
        checkPassword other hash salt' = .ok true → salt = salt') ∧
      (∀ cost salt', hashPassword cost password salt = .ok hash → salt'.utf8ByteSize = 16 →
        salt ≠ salt' → ∀ other, checkPassword other hash salt' = .ok false) ∧
      (hash.utf8ByteSize ≤ 7 → checkPassword password hash salt ≠ .ok true) := by
  refine ⟨fun h => ?_, fun other salt' h h' => ?_,
    fun cost salt' hh hsalt' hne => checkPassword_other_salt hh hsalt' hne, fun hshort h => ?_⟩
  · obtain ⟨cost, hc, hbinds, htail⟩ := binds_of_check h
    obtain ⟨hsalt, hlen, -⟩ := checkPassword_true_iff.mp h
    obtain ⟨hmin, hmax⟩ := (isCost_iff cost).mp hc
    have hmade := hashPassword_ok hlen hsalt hc
    exact ⟨hsalt, hlen, cost, hmin, hmax, hbinds, _, hmade, htail.trans (drop_bytes_of_hash hmade).symm⟩
  · obtain ⟨_, -, hbinds, -⟩ := binds_of_check h
    obtain ⟨_, -, hbinds', -⟩ := binds_of_check h'
    exact hbinds.salt_unique hbinds'
  · obtain ⟨_, -, hbinds, -⟩ := binds_of_check h
    have hlength := hbinds.length
    rw [length_bytesOf] at hlength
    omega

theorem sealed_hash_bound_to_salt :
    let password := "correct horse"
    let salt := "0123456789abcdef"
    let hash := String.ofList (hashText 12 (bytesOf password) (bytesOf salt))
    checkPassword password hash salt = .ok true ∧ (∃ cost, 4 ≤ cost ∧ cost ≤ 31 ∧ Binds hash salt cost) ∧
      checkPassword password hash "fedcba9876543210" = .ok false ∧
      checkPassword password "$2b$12$" salt ≠ .ok true := by
  intro password salt hash
  have hmade : hashPassword 12 password salt = .ok hash :=
    hashPassword_ok (by decide +kernel) (by decide +kernel) (by decide)
  have hcheck : checkPassword password hash salt = .ok true := (checkPassword_iff hmade password).mpr hmade
  obtain ⟨hbound, -, hother, -⟩ := checks_bind_hash_and_salt password hash salt
  obtain ⟨-, -, -, hshort⟩ := checks_bind_hash_and_salt password "$2b$12$" salt
  obtain ⟨-, -, cost, hmin, hmax, hbinds, -⟩ := hbound hcheck
  exact ⟨hcheck, ⟨cost, hmin, hmax, hbinds⟩,
    hother 12 "fedcba9876543210" hmade (by decide +kernel) (by decide +kernel) password,
    hshort (by decide +kernel)⟩

/-- Sealing succeeds exactly for a password, a salt and a cost within bounds. The hash that it gives has 60
characters of ASCII. A check with its salt, which is told no cost, lets in the passwords that have this hash
and refuses all others, without a fault. -/
theorem hashes_and_checks_agree (cost : Nat) (password salt : String) :
    ((∃ hash, hashPassword cost password salt = .ok hash) ↔
      password.utf8ByteSize ≤ 72 ∧ salt.utf8ByteSize = 16 ∧ 4 ≤ cost ∧ cost ≤ 31) ∧
      ∀ hash, hashPassword cost password salt = .ok hash →
        hash.length = 60 ∧ (∀ c ∈ hash.toList, c.toNat < 128) ∧
          checkPassword password hash salt = .ok true ∧
          ∀ other,
            (∃ fits, checkPassword other hash salt = .ok fits ∧
              (fits = true ↔ hashPassword cost other salt = .ok hash)) ∧
            (72 < other.utf8ByteSize → checkPassword other hash salt = .ok false) := by
  refine ⟨⟨?_, ?_⟩, fun hash hh => ?_⟩
  · rintro ⟨hash, hh⟩
    obtain ⟨hlen, hsalt, hc, -⟩ := hashPassword_ok_iff.mp hh
    exact ⟨hlen, hsalt, (isCost_iff cost).mp hc⟩
  · rintro ⟨hlen, hsalt, hc⟩
    exact ⟨_, hashPassword_ok hlen hsalt ((isCost_iff cost).mpr hc)⟩
  · have hform := isHashWith_of_hashPassword hh
    obtain ⟨-, hsalt, -, -⟩ := hashPassword_ok_iff.mp hh
    refine ⟨hform.length, fun c hc => toNat_of_isPrintable (hform.printable c hc),
      (checkPassword_iff hh password).mpr hh, fun other => ?_⟩
    obtain ⟨fits, hfits⟩ := exists_fits_of_hash hh hsalt other
    have hmeaning : fits = true ↔ hashPassword cost other salt = .ok hash := by
      rw [← checkPassword_iff hh, hfits, Except.ok.injEq]
    refine ⟨⟨fits, hfits, hmeaning⟩, fun hlong => ?_⟩
    have hrefused : fits = false := by
      by_contra hno
      have hmade := hmeaning.mp (eq_true_of_ne_false hno)
      exact absurd (hashPassword_ok_iff.mp hmade).1 (Nat.not_le.mpr hlong)
    rw [hfits, hrefused]

/-- Of the characters of this password each has three bytes, and one more would be too many. -/
theorem longest_password_recognised :
    let password := String.ofList (List.replicate 24 '€')
    let salt := "0123456789abcdef"
    ∃ hash, hashPassword 4 password salt = .ok hash ∧ hash.length = 60 ∧
      checkPassword password hash salt = .ok true ∧
      checkPassword (String.ofList (List.replicate 25 '€')) hash salt = .ok false := by
  intro password salt
  obtain ⟨hmakes, hrecognised⟩ := hashes_and_checks_agree 4 password salt
  obtain ⟨hash, hmade⟩ := hmakes.mpr (by decide +kernel)
  obtain ⟨hlength, -, hcheck, hothers⟩ := hrecognised hash hmade
  exact ⟨hash, hmade, hlength, hcheck, (hothers _).2 (by decide +kernel)⟩

end PlayerAccounts.Account
