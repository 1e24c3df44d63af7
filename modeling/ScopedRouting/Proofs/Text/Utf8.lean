import Mathlib.Algebra.Group.Nat.Defs
import ScopedRouting.Text.Utf8

/-!
# UTF-8 round trip

Reading the bytes of a character gives the character back and stops behind them, so that every text
is what is read from its bytes. A text that is read takes no more bytes than it is read from.
-/
namespace ScopedRouting.Utf8

/-- The code points that are characters. -/
theorem toNat_char_cases (c : Char) :
    c.toNat < 0xD800 ∨ (0xDFFF < c.toNat ∧ c.toNat < 0x110000) :=
  c.valid

theorem toNat_ofNat_of_lt {k : Nat} (small : k < 256) : (UInt8.ofNat k).toNat = k := by
  rw [UInt8.toNat_ofNat']
  exact Nat.mod_eq_of_lt small

/-- A continuation byte within its bounds adds six bits. -/
theorem readTail_continuation {count payload low high k : Nat} (rest : List UInt8)
    (lower : low ≤ 0x80 + k) (upper : 0x80 + k ≤ high) (bits : k < 64) :
    readTail (count + 1) payload low high (UInt8.ofNat (0x80 + k) :: rest) =
      readTail count (payload * 64 + k) 0x80 0xBF rest := by
  have byte : (UInt8.ofNat (0x80 + k)).toNat = 0x80 + k := toNat_ofNat_of_lt (by omega)
  have low_bits : (0x80 + k) % 64 = k := by omega
  rw [readTail, byte, low_bits, if_pos ⟨lower, upper⟩]

theorem scan_of_readChar {b : UInt8} {tail rest : List UInt8} {c : Char}
    (read : readChar b (tail ++ rest) = (some c, rest)) :
    scan (b :: tail ++ rest) = some c :: scan rest := by
  rw [List.cons_append, scan, read]

theorem readChar_of_lead {b : UInt8} {following payload low high : Nat} {bytes rest : List UInt8}
    {k : Nat} {c : Char} (above : 0x80 ≤ b.toNat)
    (leads : Lead.ofByte? b.toNat = some ⟨following, payload, low, high⟩)
    (tail : readTail following payload low high bytes = (some k, rest)) (point : k = c.toNat) :
    readChar b bytes = (some c, rest) := by
  rw [readChar, if_neg (by omega), leads]
  dsimp only
  rw [tail, point]
  exact congrArg (fun c => (some c, rest)) (Char.ofNat_toNat c)

/-- The bounds of the second byte let every character of three bytes pass. -/
theorem exists_lead_of_three {n : Nat} (above : 0x800 ≤ n) (below : n < 0x10000)
    (valid : n < 0xD800 ∨ 0xDFFF < n) :
    ∃ low high, Lead.ofByte? (0xE0 + n / 4096) = some ⟨2, n / 4096, low, high⟩ ∧
      low ≤ 0x80 + n / 64 % 64 ∧ 0x80 + n / 64 % 64 ≤ high := by
  have payload : 0xE0 + n / 4096 - 0xE0 = n / 4096 := by omega
  unfold Lead.ofByte?
  rw [if_neg (by omega), if_neg (by omega)]
  split
  · have zero : n / 4096 = 0 := by omega
    exact ⟨0xA0, 0xBF, by rw [zero], by omega, by omega⟩
  · split
    · have thirteen : n / 4096 = 0xD := by omega
      exact ⟨0x80, 0x9F, by rw [thirteen], by omega, by omega⟩
    · rw [if_pos (by omega)]
      exact ⟨0x80, 0xBF, by rw [payload], by omega, by omega⟩

/-- The bounds of the second byte let every character of four bytes pass. -/
theorem exists_lead_of_four {n : Nat} (above : 0x10000 ≤ n) (below : n < 0x110000) :
    ∃ low high, Lead.ofByte? (0xF0 + n / 262144) = some ⟨3, n / 262144, low, high⟩ ∧
      low ≤ 0x80 + n / 4096 % 64 ∧ 0x80 + n / 4096 % 64 ≤ high := by
  have payload : 0xF0 + n / 262144 - 0xF0 = n / 262144 := by omega
  unfold Lead.ofByte?
  rw [if_neg (by omega), if_neg (by omega), if_neg (by omega), if_neg (by omega),
    if_neg (by omega)]
  split
  · have zero : n / 262144 = 0 := by omega
    exact ⟨0x90, 0xBF, by rw [zero], by omega, by omega⟩
  · split
    · exact ⟨0x80, 0xBF, by rw [payload], by omega, by omega⟩
    · have four : n / 262144 = 4 := by omega
      rw [if_pos (by omega)]
      exact ⟨0x80, 0x8F, by rw [four], by omega, by omega⟩

theorem scan_encodeChar (c : Char) (rest : List UInt8) :
    scan (encodeChar c ++ rest) = some c :: scan rest := by
  have valid := toNat_char_cases c
  unfold encodeChar
  generalize same : c.toNat = n at valid
  dsimp only
  split
  · rename_i ascii
    apply scan_of_readChar
    rw [readChar, toNat_ofNat_of_lt (by omega), if_pos ascii, ← same, Char.ofNat_toNat]
    rfl
  · split
    · apply scan_of_readChar
      have first : (UInt8.ofNat (0xC0 + n / 64)).toNat = 0xC0 + n / 64 :=
        toNat_ofNat_of_lt (by omega)
      have leads : Lead.ofByte? (0xC0 + n / 64) = some ⟨1, n / 64, 0x80, 0xBF⟩ := by
        rw [Lead.ofByte?, if_neg (by omega), if_pos (by omega), Nat.add_sub_cancel_left]
      have tail : readTail 1 (n / 64) 0x80 0xBF (UInt8.ofNat (0x80 + n % 64) :: rest) =
          (some (n / 64 * 64 + n % 64), rest) :=
        readTail_continuation rest (by omega) (by omega) (by omega)
      exact readChar_of_lead (by omega) (by rw [first, leads]) tail (by omega)
    · split
      · apply scan_of_readChar
        have first : (UInt8.ofNat (0xE0 + n / 4096)).toNat = 0xE0 + n / 4096 :=
          toNat_ofNat_of_lt (by omega)
        obtain ⟨low, high, leads, lower, upper⟩ :=
          exists_lead_of_three (n := n) (by omega) (by omega) (by omega)
        have tail : readTail 2 (n / 4096) low high (UInt8.ofNat (0x80 + n / 64 % 64) ::
            UInt8.ofNat (0x80 + n % 64) :: rest) =
              (some ((n / 4096 * 64 + n / 64 % 64) * 64 + n % 64), rest) := by
          rw [readTail_continuation _ lower upper (by omega)]
          exact readTail_continuation rest (by omega) (by omega) (by omega)
        exact readChar_of_lead (by omega) (by rw [first, leads]) tail (by omega)
      · apply scan_of_readChar
        have first : (UInt8.ofNat (0xF0 + n / 262144)).toNat = 0xF0 + n / 262144 :=
          toNat_ofNat_of_lt (by omega)
        obtain ⟨low, high, leads, lower, upper⟩ :=
          exists_lead_of_four (n := n) (by omega) (by omega)
        have tail : readTail 3 (n / 262144) low high (UInt8.ofNat (0x80 + n / 4096 % 64) ::
            UInt8.ofNat (0x80 + n / 64 % 64) :: UInt8.ofNat (0x80 + n % 64) :: rest) =
              (some (((n / 262144 * 64 + n / 4096 % 64) * 64 + n / 64 % 64) * 64 + n % 64),
                rest) := by
          rw [readTail_continuation _ lower upper (by omega),
            readTail_continuation _ (by omega) (by omega) (by omega)]
          exact readTail_continuation rest (by omega) (by omega) (by omega)
        exact readChar_of_lead (by omega) (by rw [first, leads]) tail (by omega)

theorem mapM_id_eq_some_iff {scanned : List (Option Char)} {text : List Char} :
    scanned.mapM id = some text ↔ scanned = text.map some := by
  induction scanned generalizing text with
  | nil => cases text <;> simp
  | cons c rest ih =>
    rw [List.mapM_cons]
    cases c with
    | none => cases text <;> simp
    | some c =>
      simp only [id_eq, Option.bind_eq_bind, Option.bind_some, Option.bind_eq_some_iff, ih]
      cases text with
      | nil => simp
      | cons d text =>
        simp only [Option.pure_def, Option.some.injEq, List.cons.injEq, List.map_cons]
        constructor
        · rintro ⟨_, scanned, rfl, rfl⟩
          exact ⟨rfl, scanned⟩
        · rintro ⟨rfl, scanned⟩
          exact ⟨text, scanned, rfl, rfl⟩

theorem scan_encode (text : List Char) : scan (encode text) = text.map some := by
  induction text with
  | nil => rw [encode, List.flatMap_nil, scan, List.map_nil]
  | cons c rest ih =>
    rw [encode, List.flatMap_cons, scan_encodeChar, List.map_cons]
    exact congrArg (some c :: ·) ih

/-- Every text is what is read from its bytes. -/
@[simp]
theorem decode?_encode (text : List Char) : decode? (encode text) = some text := by
  rw [decode?, mapM_id_eq_some_iff]
  exact scan_encode text

/-- Nothing is lost in the bytes of a text. -/
@[simp]
theorem decodeLossy_encode (text : List Char) : decodeLossy (encode text) = text := by
  rw [decodeLossy, scan_encode, List.map_map]
  exact List.map_id text

theorem toNat_ofNat_le (n : Nat) : (Char.ofNat n).toNat ≤ n := by
  by_cases valid : n.isValidChar
  · rw [Char.ofNat, dif_pos valid]
    exact Nat.le_refl n
  · rw [Char.ofNat, dif_neg valid]
    exact Nat.zero_le n

/-- How many bytes a character has at most, by its code point. -/
theorem length_encodeChar_le (c : Char) :
    (encodeChar c).length ≤ 4 ∧ (c.toNat < 0x10000 → (encodeChar c).length ≤ 3) ∧
      (c.toNat < 0x800 → (encodeChar c).length ≤ 2) ∧
      (c.toNat < 0x80 → (encodeChar c).length ≤ 1) := by
  unfold encodeChar
  dsimp only
  split
  · simp
  · split
    · simp only [List.length_cons, List.length_nil]
      omega
    · split
      · simp only [List.length_cons, List.length_nil]
        omega
      · simp only [List.length_cons, List.length_nil]
        omega

theorem length_encodeChar_pos (c : Char) : 0 < (encodeChar c).length := by
  unfold encodeChar
  dsimp only
  repeat' split
  all_goals exact Nat.succ_pos _

theorem readTail_some {count payload low high k : Nat} {bytes rest : List UInt8}
    (read : readTail count payload low high bytes = (some k, rest)) :
    bytes.length = count + rest.length ∧ k < (payload + 1) * 64 ^ count := by
  induction count generalizing payload low high bytes with
  | zero =>
    cases read
    simp
  | succ count ih =>
    cases bytes with
    | nil => cases read
    | cons b bytes =>
      rw [readTail] at read
      split at read
      · obtain ⟨length, bound⟩ := ih read
        constructor
        · rw [List.length_cons]
          omega
        · have six : payload * 64 + b.toNat % 64 + 1 ≤ (payload + 1) * 64 := by omega
          calc k
            _ < (payload * 64 + b.toNat % 64 + 1) * 64 ^ count := bound
            _ ≤ (payload + 1) * 64 * 64 ^ count := Nat.mul_le_mul_right _ six
            _ = (payload + 1) * 64 ^ (count + 1) := by rw [Nat.pow_succ', Nat.mul_assoc]
      · cases read

/-- What a lead byte promises is as long as the characters that it can begin. -/
theorem Lead.bounds {b : Nat} {lead : Lead} (leads : Lead.ofByte? b = some lead) :
    (lead.following = 1 ∧ lead.payload < 32) ∨ (lead.following = 2 ∧ lead.payload < 16) ∨
      lead.following = 3 := by
  unfold Lead.ofByte? at leads
  repeat' split at leads
  all_goals cases leads
  all_goals dsimp only
  all_goals omega

theorem length_of_readChar {b : UInt8} {bytes rest : List UInt8} {c : Char}
    (read : readChar b bytes = (some c, rest)) :
    (encodeChar c).length + rest.length ≤ bytes.length + 1 := by
  unfold readChar at read
  split at read
  · rename_i ascii
    cases read
    have small := (length_encodeChar_le (Char.ofNat b.toNat)).2.2.2
      (Nat.lt_of_le_of_lt (toNat_ofNat_le _) ascii)
    omega
  · split at read
    · cases read
    · rename_i lead leads
      dsimp only at read
      cases tail : readTail lead.following lead.payload lead.low lead.high bytes with
      | mk point left =>
      rw [tail, Prod.mk.injEq] at read
      obtain ⟨mapped, same⟩ := read
      subst same
      obtain ⟨k, here, rfl⟩ := Option.map_eq_some_iff.mp mapped
      dsimp only at here ⊢
      subst here
      obtain ⟨length, bound⟩ := readTail_some tail
      have code := toNat_ofNat_le k
      obtain ⟨four, three, two, _⟩ := length_encodeChar_le (Char.ofNat k)
      rcases Lead.bounds leads with ⟨one, payload⟩ | ⟨twice, payload⟩ | thrice
      · rw [one] at length bound
        have fits := two (by omega)
        omega
      · rw [twice] at length bound
        have fits := three (by omega)
        omega
      · rw [thrice] at length
        omega

/-- A text that is read takes no more bytes than it is read from. -/
theorem length_encode_le {bytes : List UInt8} {text : List Char}
    (read : decode? bytes = some text) : (encode text).length ≤ bytes.length := by
  rw [decode?, mapM_id_eq_some_iff] at read
  induction bytes using scan.induct generalizing text with
  | case1 =>
    rw [scan] at read
    cases text with
    | nil => exact Nat.le_refl 0
    | cons c text => cases read
  | case2 b rest ih =>
    rw [scan] at read
    cases text with
    | nil => cases read
    | cons c text =>
      rw [List.map_cons, List.cons.injEq] at read
      cases step : readChar b rest with
      | mk point left =>
      rw [step] at read ih
      obtain ⟨rfl, others⟩ := read
      have first := length_of_readChar step
      have later : (encode text).length ≤ left.length := ih others
      rw [encode, List.flatMap_cons, List.length_append, List.length_cons]
      change _ + (encode text).length ≤ _
      omega

theorem encode_ne_nil {text : List Char} (nonempty : text ≠ []) : encode text ≠ [] := by
  cases text with
  | nil => exact absurd rfl nonempty
  | cons c rest =>
    intro nothing
    have first := length_encodeChar_pos c
    rw [encode, List.flatMap_cons] at nothing
    rw [(List.append_eq_nil_iff.mp nothing).1] at first
    exact Nat.lt_irrefl 0 first

/-- Bytes that are read as an empty text are none. -/
theorem eq_nil_of_decode? {bytes : List UInt8} (read : decode? bytes = some []) : bytes = [] := by
  rw [decode?, mapM_id_eq_some_iff] at read
  cases bytes with
  | nil => rfl
  | cons b rest =>
    rw [scan] at read
    cases read

end ScopedRouting.Utf8
