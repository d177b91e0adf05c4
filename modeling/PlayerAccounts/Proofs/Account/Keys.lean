import PlayerAccounts.Account.Rules
import PlayerAccounts.Proofs.Account.Forms
/-!
# Passwords with one key

A key is closed by a zero byte and repeated, and nothing forbids this byte in a password. So two passwords
that may be set can have the same key, but only if one of them is the other with a zero byte and more
behind it. Without this, a check lets in another password only where two digests of different keys agree.
-/
namespace PlayerAccounts.Account
set_option autoImplicit false

open PlayerAccounts.Bcrypt (cyclic digest encode64 key keptBytes keyBytes keyStream)
open PlayerAccounts.Text

/-! ## Keys byte by byte -/

theorem length_key (p : List UInt8) : (key p).length = min (p.length + 1) keyBytes := by
  rw [key, List.length_take, List.length_append, List.length_singleton, Nat.min_comm]

theorem getD_closed (p : List UInt8) (i : Nat) : (p ++ [0]).getD i 0 = p.getD i 0 := by
  rw [List.getD_eq_getElem?_getD, List.getElem?_append, List.getD_eq_getElem?_getD]
  split
  · rfl
  · rename_i hbehind
    rw [List.getElem?_eq_none (Nat.not_lt.mp hbehind), List.getElem?_singleton]
    split <;> rfl

theorem getD_length (p : List UInt8) : p.getD p.length 0 = 0 := by
  rw [List.getD_eq_getElem?_getD, List.getElem?_eq_none (Nat.le_refl _), Option.getD_none]

theorem getD_key (p : List UInt8) {i : Nat} (hi : i < keyBytes) : (key p).getD i 0 = p.getD i 0 := by
  rw [key, List.getD_eq_getElem?_getD, List.getElem?_take_of_lt hi, ← List.getD_eq_getElem?_getD,
    getD_closed]

theorem eq_cyclic_iff {l bytes : List UInt8} : l = cyclic l.length bytes ↔
    ∀ i < l.length, l.getD i 0 = bytes.getD (i % bytes.length) 0 := by
  have hlen : l.length = (cyclic l.length bytes).length := by
    rw [cyclic, List.length_map, List.length_range]
  rw [List.ext_getElem_iff, and_iff_right hlen]
  simp only [cyclic, List.getElem_map, List.getElem_range]
  constructor
  · intro h i hi
    rw [← List.getElem_eq_getD (h := hi) 0]
    exact h i hi (hlen ▸ hi)
  · intro h i hi _
    rw [List.getElem_eq_getD 0]
    exact h i hi

/-- The byte at a place of the key stream. -/
def streamByte (p : List UInt8) (i : Nat) : UInt8 := p.getD (i % min (p.length + 1) keyBytes) 0

theorem keyStream_inj {p q : List UInt8} :
    keyStream p = keyStream q ↔ ∀ i < keyBytes, streamByte p i = streamByte q i := by
  have hplace (r : List UInt8) (i : Nat) : (key r).getD (i % (key r).length) 0 = streamByte r i := by
    have hpos : 0 < min (r.length + 1) keyBytes := Nat.lt_min.mpr ⟨Nat.succ_pos _, by decide⟩
    have hlt := Nat.lt_of_lt_of_le (Nat.mod_lt i hpos) (Nat.min_le_right _ _)
    rw [length_key, getD_key r hlt, streamByte]
  simp only [keyStream, cyclic, List.map_inj_left, List.mem_range, hplace]

section Passwords
variable {p q : List UInt8}

theorem streamByte_of_lt {i : Nat} (hp : p.length ≤ keyBytes) (hi : i < p.length) :
    streamByte p i = p.getD i 0 := by
  rw [streamByte, Nat.mod_eq_of_lt (by omega)]

theorem streamByte_of_short (hp : p.length < keyBytes) (i : Nat) :
    streamByte p i = p.getD (i % (p.length + 1)) 0 := by
  rw [streamByte, Nat.min_eq_left hp]

theorem streamByte_end (hp : p.length < keyBytes) : streamByte p p.length = 0 := by
  rw [streamByte_of_short hp, Nat.mod_eq_of_lt (Nat.lt_succ_self _), getD_length]

/-! ## A shorter and a longer password -/

/-- If two passwords have one key, the longer one begins with the shorter one and a zero byte. -/
theorem isPrefix_of_keyStream_eq (hle : p.length ≤ q.length) (hq : q.length ≤ keyBytes) (hne : p ≠ q)
    (hkey : keyStream p = keyStream q) : p ++ [0] <+: q := by
  rw [keyStream_inj] at hkey
  have hbegins : p <+: q := by
    refine List.prefix_iff_getElem.mpr ⟨hle, fun i hi => ?_⟩
    have hbyte := hkey i (by omega)
    rw [streamByte_of_lt (by omega) hi, streamByte_of_lt hq (by omega)] at hbyte
    rwa [List.getElem_eq_getD 0, List.getElem_eq_getD 0]
  obtain ⟨rest, rfl⟩ := hbegins
  cases rest with
  | nil => exact absurd (List.append_nil p).symm hne
  | cons c rest =>
    have hlen : p.length < (p ++ c :: rest).length := by
      rw [List.length_append, List.length_cons]
      omega
    have hzero : c = 0 := by
      have hbyte := hkey p.length (by omega)
      rw [streamByte_end (by omega), streamByte_of_lt hq hlen, ← List.getElem_eq_getD (h := hlen) 0,
        List.getElem_append_right (Nat.le_refl _)] at hbyte
      simpa using hbyte.symm
    rw [hzero]
    exact ⟨rest, by rw [List.append_assoc, List.singleton_append]⟩

/-- Without a zero byte in it, the stream of a password is zero at the ends of its repetitions only. -/
theorem streamByte_eq_zero_iff (hp : p.length < keyBytes) (hfree : 0 ∉ p) {i : Nat} :
    streamByte p i = 0 ↔ p.length + 1 ∣ i + 1 := by
  have hplace : i % (p.length + 1) < p.length + 1 := Nat.mod_lt i (Nat.succ_pos _)
  rw [streamByte_of_short hp, Nat.dvd_iff_mod_eq_zero, Nat.succ_mod_succ_eq_zero_iff]
  constructor
  · intro hzero
    by_contra hno
    have hlt : i % (p.length + 1) < p.length := by omega
    rw [← List.getElem_eq_getD (h := hlt) 0] at hzero
    exact hfree (hzero ▸ List.getElem_mem hlt)
  · intro hlast
    rw [hlast, getD_length]

/-- The longer passwords that share the key of a password without a zero byte: its repetitions, closed by
zero bytes, whether they end where one of them does or where no more bytes count. -/
theorem keyStream_eq_iff (hlt : p.length < q.length) (hq : q.length ≤ keyBytes) (hfree : 0 ∉ p) :
    keyStream p = keyStream q ↔ q = cyclic q.length (p ++ [0]) ∧
      (q.length = keyBytes ∨ p.length + 1 ∣ q.length + 1) := by
  have hp : p.length < keyBytes := by omega
  have hcyclic : q = cyclic q.length (p ++ [0]) ↔ ∀ i < q.length, q.getD i 0 = streamByte p i := by
    simp only [eq_cyclic_iff, List.length_append, List.length_singleton, getD_closed, streamByte_of_short hp]
  rw [keyStream_inj, hcyclic]
  constructor
  · intro hkey
    refine ⟨fun i hi => ?_, ?_⟩
    · rw [hkey i (by omega), streamByte_of_lt hq hi]
    · by_cases hfull : q.length = keyBytes
      · exact .inl hfull
      · have hshort : q.length < keyBytes := by omega
        exact .inr ((streamByte_eq_zero_iff hp hfree).mp ((hkey _ hshort).trans (streamByte_end hshort)))
  · rintro ⟨hbytes, hends⟩ i hi
    by_cases hfull : q.length = keyBytes
    · rw [streamByte_of_lt hq (by omega), hbytes i (by omega)]
    have hdvd : p.length + 1 ∣ q.length + 1 := hends.resolve_left hfull
    have hround : streamByte p (i % (q.length + 1)) = streamByte p i := by
      rw [streamByte_of_short hp, streamByte_of_short hp, Nat.mod_mod_of_dvd i hdvd]
    have hplace : i % (q.length + 1) < q.length + 1 := Nat.mod_lt i (Nat.succ_pos _)
    rw [streamByte_of_short (p := q) (by omega), ← hround]
    -- The zero byte that closes the longer password stands where one closes a repetition of the shorter.
    rcases Nat.lt_succ_iff_lt_or_eq.mp hplace with hlt | hend
    · exact (hbytes _ hlt).symm
    · rw [hend, (streamByte_eq_zero_iff hp hfree).mpr hdvd, getD_length]

end Passwords

/-! ## Texts -/

/-- A password that begins with another one and U+0000. -/
def GoesOnAfterZero (p q : String) : Prop := ∃ rest, q.toList = p.toList ++ '\x00' :: rest

theorem goesOnAfterZero_of_isPrefix {p q : String} (h : bytesOf p ++ [0] <+: bytesOf q) :
    GoesOnAfterZero p q := by
  have hclosed : utf8Bytes (p.toList ++ ['\x00']) = bytesOf p ++ [0] := utf8Bytes_append _ _
  obtain ⟨rest, hrest⟩ := isPrefix_of_utf8Bytes (hclosed ▸ h)
  exact ⟨rest, by rw [← hrest, List.append_assoc, List.singleton_append]⟩

theorem goesOnAfterZero_of_keyStream_eq {p q : String} (hp : p.utf8ByteSize ≤ keyBytes)
    (hq : q.utf8ByteSize ≤ keyBytes) (hne : p ≠ q) (hkey : keyStream (bytesOf p) = keyStream (bytesOf q)) :
    GoesOnAfterZero p q ∨ GoesOnAfterZero q p := by
  rw [← length_bytesOf] at hp hq
  rcases Nat.le_total (bytesOf p).length (bytesOf q).length with hle | hle
  · exact .inl (goesOnAfterZero_of_isPrefix
      (isPrefix_of_keyStream_eq hle hq (mt bytesOf_inj.mp hne) hkey))
  · exact .inr (goesOnAfterZero_of_isPrefix
      (isPrefix_of_keyStream_eq hle hp (mt bytesOf_inj.mp hne.symm) hkey.symm))

/-- What a check finds out: the part of the digest that is kept is the same. -/
theorem digests_of_check {cost : Nat} {p q salt hash : String} (hh : hashPassword cost p salt = .ok hash)
    (hcheck : checkPassword q hash salt = .ok true) :
    (digest cost (bytesOf salt) (keyStream (bytesOf p))).take keptBytes =
      (digest cost (bytesOf salt) (keyStream (bytesOf q))).take keptBytes := by
  obtain ⟨-, -, -, hp⟩ := hashPassword_ok_iff.mp hh
  obtain ⟨-, -, -, hq⟩ := hashPassword_ok_iff.mp ((checkPassword_iff hh q).mp hcheck)
  have htail := hashText_inj.mp (String.ofList_inj.mp (hp.trans hq.symm))
  exact encode64_inj.mp (List.append_cancel_left htail)

/-- No check tells passwords with one key apart. -/
theorem checkPassword_of_keyStream_eq {cost : Nat} {p q salt hash : String}
    (hh : hashPassword cost p salt = .ok hash) (hq : q.utf8ByteSize ≤ maxPasswordBytes)
    (hkey : keyStream (bytesOf p) = keyStream (bytesOf q)) : checkPassword q hash salt = .ok true := by
  rw [checkPassword_iff hh]
  obtain ⟨-, hsalt, hcost, rfl⟩ := hashPassword_ok_iff.mp hh
  refine hashPassword_ok_iff.mpr ⟨hq, hsalt, hcost, ?_⟩
  rw [Bcrypt.hashText, Bcrypt.hashText, Bcrypt.tail, Bcrypt.tail, hkey]

/-! ## The result -/

/-- Two different passwords that may be set have one key only if one of them begins with the other and
U+0000; a password without U+0000 shares its key with its repetitions closed by U+0000, and with no other
longer one. A check lets in another password than the sealed one only in this way, or because digests of
two keys agree in all that is kept of them. -/
theorem accepted_passwords_with_one_key {p q : String} (hp : brokenByPassword? p = none)
    (hq : brokenByPassword? q = none) (hne : p ≠ q) :
    (keyStream (bytesOf p) = keyStream (bytesOf q) → GoesOnAfterZero p q ∨ GoesOnAfterZero q p) ∧
      ('\x00' ∉ p.toList → p.utf8ByteSize < q.utf8ByteSize →
        (keyStream (bytesOf p) = keyStream (bytesOf q) ↔
          bytesOf q = cyclic q.utf8ByteSize (bytesOf p ++ [0]) ∧
            (q.utf8ByteSize = keyBytes ∨ p.utf8ByteSize + 1 ∣ q.utf8ByteSize + 1))) ∧
      ∀ cost salt hash, hashPassword cost p salt = .ok hash → checkPassword q hash salt = .ok true →
        GoesOnAfterZero p q ∨ GoesOnAfterZero q p ∨
          (keyStream (bytesOf p) ≠ keyStream (bytesOf q) ∧
            (digest cost (bytesOf salt) (keyStream (bytesOf p))).take keptBytes =
              (digest cost (bytesOf salt) (keyStream (bytesOf q))).take keptBytes) := by
  have hshort : p.utf8ByteSize ≤ keyBytes := utf8ByteSize_of_unbroken hp
  have hshort' : q.utf8ByteSize ≤ keyBytes := utf8ByteSize_of_unbroken hq
  have hcontinues := goesOnAfterZero_of_keyStream_eq hshort hshort' hne
  refine ⟨hcontinues, fun hfree hlt => ?_, fun cost salt hash hh hcheck => ?_⟩
  · simp only [← length_bytesOf] at hlt hshort' ⊢
    exact keyStream_eq_iff hlt hshort' (mt zero_mem_utf8Bytes.mp hfree)
  · by_cases hkey : keyStream (bytesOf p) = keyStream (bytesOf q)
    · exact (hcontinues hkey).imp_right .inl
    · exact .inr (.inr ⟨hkey, digests_of_check hh hcheck⟩)

theorem doubled_password_goes_on :
    let p := "password"
    let q := "password\x00password"
    (brokenByPassword? p = none ∧ brokenByPassword? q = none ∧ p ≠ q) ∧
      keyStream (bytesOf p) = keyStream (bytesOf q) ∧ (GoesOnAfterZero p q ∨ GoesOnAfterZero q p) ∧
      bytesOf q = cyclic q.utf8ByteSize (bytesOf p ++ [0]) := by
  intro p q
  have hp : brokenByPassword? p = none := by decide +kernel
  have hq : brokenByPassword? q = none := by decide +kernel
  have hne : p ≠ q := by decide +kernel
  have hkey : keyStream (bytesOf p) = keyStream (bytesOf q) := by decide +kernel
  obtain ⟨hgoes, hrepeats, -⟩ := accepted_passwords_with_one_key hp hq hne
  exact ⟨⟨hp, hq, hne⟩, hkey, hgoes hkey,
    ((hrepeats (by decide +kernel) (by decide +kernel)).mp hkey).1⟩

/-- Both passwords may be set, they are different, and whoever has sealed the longer one is let in with the
shorter one, with every salt and at every cost. -/
theorem doubled_password_let_in :
    let p := "password"
    let q := "password\x00password"
    brokenByPassword? p = none ∧ brokenByPassword? q = none ∧ p ≠ q ∧
      keyStream (bytesOf p) = keyStream (bytesOf q) ∧
      ∀ cost salt, isCost cost = true → salt.utf8ByteSize = saltBytes →
        ∃ hash, hashPassword cost q salt = .ok hash ∧ checkPassword p hash salt = .ok true := by
  intro p q
  have hp : brokenByPassword? p = none := by decide +kernel
  have hq : brokenByPassword? q = none := by decide +kernel
  have hkey : keyStream (bytesOf p) = keyStream (bytesOf q) := by decide +kernel
  refine ⟨hp, hq, by decide +kernel, hkey, fun cost salt hcost hsalt => ?_⟩
  have hh := hashPassword_ok (utf8ByteSize_of_unbroken hq) hsalt hcost
  exact ⟨_, hh, checkPassword_of_keyStream_eq hh (utf8ByteSize_of_unbroken hp) hkey.symm⟩

end PlayerAccounts.Account
