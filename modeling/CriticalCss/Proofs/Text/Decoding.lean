import CriticalCss.Text.Utf8

/-! Bytes are read as text just if they are the UTF-8 form of one. A character is read from its
first byte and as many continuation bytes as this asks for; the ranges that the first byte sets
leave exactly the bytes that characters are written with.
-/

namespace CriticalCss.Text.Utf8

/-- Is this the UTF-8 form of some text? -/
def IsUtf8 (bytes : List UInt8) : Prop :=
  ∃ chars : List Char, bytes = chars.flatMap String.utf8EncodeChar

--------------------------------------------------------------------------------
-- Continuation bytes
--------------------------------------------------------------------------------

/-- So many continuation bytes, the first of them in a range of its own. -/
def IsTail (least most : Nat) : Nat → List UInt8 → Prop
  | 0, tail => tail = []
  | n + 1, tail =>
    ∃ byte rest, tail = byte :: rest ∧ least ≤ byte.toNat ∧ byte.toNat ≤ most
      ∧ IsTail 0x80 0xBF n rest

/-- The code point that continuation bytes complete. -/
def complete (bits : Nat) (tail : List UInt8) : Nat :=
  tail.foldl (fun bits byte => bits * 64 + (byte.toNat - 0x80)) bits

theorem complete_nil (bits : Nat) : complete bits [] = bits :=
  List.foldl_nil

theorem complete_cons (bits : Nat) (byte : UInt8) (tail : List UInt8)
    : complete bits (byte :: tail) = complete (bits * 64 + (byte.toNat - 0x80)) tail :=
  List.foldl_cons ..

theorem map_eq_ok_iff {ε α β : Type} {f : α → β} {found : Except ε α} {b : β}
    : found.map f = .ok b ↔ ∃ a, found = .ok a ∧ f a = b := by
  cases found <;> simp [Except.map]

/-- Reads the rest of a character, of which so many continuation bytes are missing, and on. -/
def readRest (position : Nat) (first : UInt8) (start taken bits least most : Nat)
    : Nat → List UInt8 → Except Fault (List Char)
  | 0, bytes => (decodeFrom position .between bytes).map (Char.ofNat bits :: ·)
  | n + 1, bytes => decodeFrom position (.inside first start taken bits (n + 1) least most) bytes

theorem readRest_cons (position : Nat) (first : UInt8) (start taken bits least most n : Nat)
    (byte : UInt8) (bytes : List UInt8)
    : readRest position first start taken bits least most (n + 1) (byte :: bytes)
      = if least ≤ byte.toNat ∧ byte.toNat ≤ most then
          readRest (position + 1) first start (taken + 1) (bits * 64 + (byte.toNat - 0x80)) 0x80 0xBF
            n bytes
        else .error ⟨first, taken, start, .badContinuation⟩ := by
  rw [readRest, decodeFrom]
  cases n <;> simp [readRest]

/-- The rest of a character is its missing continuation bytes, and what is read behind it follows.
By induction on how many bytes are missing. -/
theorem readRest_eq_ok_iff {bytes : List UInt8} {chars : List Char} {first : UInt8}
    {position start taken bits least most n : Nat}
    : readRest position first start taken bits least most n bytes = .ok chars
      ↔ ∃ tail behind more, bytes = tail ++ behind ∧ IsTail least most n tail
        ∧ decodeFrom (position + n) .between behind = .ok more
        ∧ chars = Char.ofNat (complete bits tail) :: more := by
  induction n generalizing position taken bits least most bytes with
  | zero =>
    rw [readRest, map_eq_ok_iff]
    constructor
    · rintro ⟨more, read, rfl⟩
      exact ⟨[], bytes, more, rfl, rfl, read, rfl⟩
    · rintro ⟨tail, behind, more, rfl, rfl, read, rfl⟩
      exact ⟨more, read, rfl⟩
  | succ n ih =>
    have next : position + 1 + n = position + (n + 1) := by omega
    constructor
    · intro whole
      cases bytes with
      | nil => exact nomatch whole
      | cons byte bytes =>
        rw [readRest_cons] at whole
        split at whole
        · rename_i inRange
          obtain ⟨tail, behind, more, rfl, isTail, read, rfl⟩ := ih.mp whole
          rw [next] at read
          exact ⟨byte :: tail, behind, more, rfl, ⟨byte, tail, rfl, inRange.1, inRange.2, isTail⟩,
            read, by rw [complete_cons]⟩
        · exact nomatch whole
    · rintro ⟨_, behind, more, rfl, ⟨byte, tail, rfl, above, below, isTail⟩, read, rfl⟩
      rw [← next] at read
      rw [List.cons_append, readRest_cons, if_pos ⟨above, below⟩]
      exact ih.mpr ⟨tail, behind, more, rfl, isTail, read, by rw [complete_cons]⟩

--------------------------------------------------------------------------------
-- Characters
--------------------------------------------------------------------------------

/-- Is this how a character is read: a first byte and the continuation bytes that it asks for? -/
def Spells (byte : UInt8) (tail : List UInt8) (c : Char) : Prop :=
  ∃ lead, lead? byte = some lead ∧ IsTail lead.least lead.most lead.following tail
    ∧ Char.ofNat (complete lead.bits tail) = c

theorem IsTail.length {least most n : Nat} {tail : List UInt8} (isTail : IsTail least most n tail)
    : tail.length = n := by
  induction n generalizing least most tail with
  | zero => rw [show tail = [] from isTail, List.length_nil]
  | succ n ih =>
    obtain ⟨byte, rest, rfl, -, -, isTail⟩ := isTail
    rw [List.length_cons, ih isTail]

/-- A character is read first, and then what is behind it. -/
theorem decodeFrom_cons_eq_ok_iff {byte : UInt8} {bytes : List UInt8} {chars : List Char}
    {position : Nat}
    : decodeFrom position .between (byte :: bytes) = .ok chars
      ↔ ∃ tail behind c more, bytes = tail ++ behind ∧ Spells byte tail c
        ∧ decodeFrom (position + 1 + tail.length) .between behind = .ok more
        ∧ chars = c :: more := by
  rw [decodeFrom]
  cases found : lead? byte with
  | none => simp [Spells, found]
  | some lead =>
    have whole
        : (if lead.following = 0 then
            (decodeFrom (position + 1) .between bytes).map (Char.ofNat lead.bits :: ·)
          else
            decodeFrom (position + 1)
              (.inside byte position 1 lead.bits lead.following lead.least lead.most) bytes)
          = readRest (position + 1) byte position 1 lead.bits lead.least lead.most lead.following
              bytes := by
      cases lead.following <;> rfl
    dsimp only
    rw [whole, readRest_eq_ok_iff]
    constructor
    · rintro ⟨tail, behind, more, rfl, isTail, read, rfl⟩
      exact ⟨tail, behind, _, more, rfl, ⟨lead, found, isTail, rfl⟩, isTail.length.symm ▸ read, rfl⟩
    · rintro ⟨tail, behind, _, more, rfl, ⟨other, same, isTail, rfl⟩, read, rfl⟩
      obtain rfl := Option.some.inj (found.symm.trans same)
      exact ⟨tail, behind, more, rfl, isTail, isTail.length ▸ read, rfl⟩

/-- The first bytes: of a character of one byte, and of those of two, three, and four. -/
theorem lead?_eq_some_iff {byte : UInt8} {lead : Lead}
    : lead? byte = some lead
      ↔ byte.toNat < 0x80 ∧ lead = ⟨byte.toNat, 0, 0x80, 0xBF⟩
        ∨ 0xC2 ≤ byte.toNat ∧ byte.toNat < 0xE0 ∧ lead = ⟨byte.toNat - 0xC0, 1, 0x80, 0xBF⟩
        ∨ 0xE0 ≤ byte.toNat ∧ byte.toNat < 0xF0
          ∧ lead = ⟨byte.toNat - 0xE0, 2, if byte.toNat = 0xE0 then 0xA0 else 0x80,
            if byte.toNat = 0xED then 0x9F else 0xBF⟩
        ∨ 0xF0 ≤ byte.toNat ∧ byte.toNat < 0xF5
          ∧ lead = ⟨byte.toNat - 0xF0, 3, if byte.toNat = 0xF0 then 0x90 else 0x80,
            if byte.toNat = 0xF4 then 0x8F else 0xBF⟩ := by
  unfold lead?
  grind

theorem toNat_ofNat {n : Nat} (valid : n.isValidChar) : (Char.ofNat n).toNat = n := by
  rw [Char.ofNat, dif_pos valid]
  rfl

/-- The UTF-8 form of a character, by the range of its code point. -/
theorem utf8EncodeChar_eq (c : Char)
    : String.utf8EncodeChar c
      = if c.toNat ≤ 0x7F then [.ofNat c.toNat]
        else if c.toNat ≤ 0x7FF then
          [.ofNat (c.toNat / 64 % 32 + 0xC0), .ofNat (c.toNat % 64 + 0x80)]
        else if c.toNat ≤ 0xFFFF then
          [.ofNat (c.toNat / 4096 % 16 + 0xE0), .ofNat (c.toNat / 64 % 64 + 0x80),
            .ofNat (c.toNat % 64 + 0x80)]
        else
          [.ofNat (c.toNat / 262144 % 8 + 0xF0), .ofNat (c.toNat / 4096 % 64 + 0x80),
            .ofNat (c.toNat / 64 % 64 + 0x80), .ofNat (c.toNat % 64 + 0x80)] :=
  rfl

theorem toNat_ofNat_byte {n : Nat} (fits : n < 256) : (UInt8.ofNat n).toNat = n :=
  UInt8.toNat_ofNat_of_lt' fits

section Forms

variable {n a b c d : Nat}

theorem isTail_cons {least most : Nat} {tail : List UInt8} (fits : a < 256)
    (inRange : least ≤ a ∧ a ≤ most) (isTail : IsTail 0x80 0xBF n tail)
    : IsTail least most (n + 1) (.ofNat a :: tail) := by
  refine ⟨.ofNat a, tail, rfl, ?_, ?_, isTail⟩
  · rw [toNat_ofNat_byte fits]
    exact inRange.1
  · rw [toNat_ofNat_byte fits]
    exact inRange.2

theorem form_one (first : a < 0x80)
    : String.utf8EncodeChar (Char.ofNat a) = [.ofNat a] ∧ Spells (.ofNat a) [] (Char.ofNat a) := by
  constructor
  · rw [utf8EncodeChar_eq, toNat_ofNat (.inl (by omega)), if_pos (by omega)]
  · refine ⟨⟨a, 0, 0x80, 0xBF⟩, lead?_eq_some_iff.mpr ?_, rfl, by rw [complete_nil]⟩
    rw [toNat_ofNat_byte (by omega)]
    exact .inl ⟨first, rfl⟩

theorem form_two (code : n = (a - 0xC0) * 64 + (b - 0x80))
    (first : 0xC2 ≤ a ∧ a < 0xE0) (second : 0x80 ≤ b ∧ b ≤ 0xBF)
    : String.utf8EncodeChar (Char.ofNat n) = [.ofNat a, .ofNat b]
      ∧ Spells (.ofNat a) [.ofNat b] (Char.ofNat n) := by
  constructor
  · have isA : n / 64 % 32 + 0xC0 = a := by omega
    have isB : n % 64 + 0x80 = b := by omega
    rw [utf8EncodeChar_eq, toNat_ofNat (.inl (by omega)), if_neg (by omega), if_pos (by omega),
      isA, isB]
  · refine ⟨⟨a - 0xC0, 1, 0x80, 0xBF⟩, lead?_eq_some_iff.mpr ?_,
      isTail_cons (by omega) second rfl, ?_⟩
    · rw [toNat_ofNat_byte (by omega)]
      exact .inr (.inl ⟨first.1, first.2, rfl⟩)
    · rw [complete_cons, complete_nil, toNat_ofNat_byte (by omega), ← code]

/-- The range of the second byte keeps out what fits into two bytes, and surrogates. -/
theorem form_three (code : n = ((a - 0xE0) * 64 + (b - 0x80)) * 64 + (c - 0x80))
    (first : 0xE0 ≤ a ∧ a < 0xF0)
    (second : (if a = 0xE0 then 0xA0 else 0x80) ≤ b ∧ b ≤ if a = 0xED then 0x9F else 0xBF)
    (third : 0x80 ≤ c ∧ c ≤ 0xBF)
    : String.utf8EncodeChar (Char.ofNat n) = [.ofNat a, .ofNat b, .ofNat c]
      ∧ Spells (.ofNat a) [.ofNat b, .ofNat c] (Char.ofNat n) := by
  have ranges : (0x80 ≤ b ∧ b ≤ 0xBF) ∧ (a = 0xE0 → 0xA0 ≤ b) ∧ (a = 0xED → b ≤ 0x9F) := by
    split at second <;> split at second <;> omega
  constructor
  · have isA : n / 4096 % 16 + 0xE0 = a := by omega
    have isB : n / 64 % 64 + 0x80 = b := by omega
    have isC : n % 64 + 0x80 = c := by omega
    have valid : n.isValidChar := by unfold Nat.isValidChar; omega
    rw [utf8EncodeChar_eq, toNat_ofNat valid, if_neg (by omega), if_neg (by omega),
      if_pos (by omega), isA, isB, isC]
  · refine ⟨⟨a - 0xE0, 2, if a = 0xE0 then 0xA0 else 0x80, if a = 0xED then 0x9F else 0xBF⟩,
      lead?_eq_some_iff.mpr ?_,
      isTail_cons (by omega) second (isTail_cons (by omega) third rfl), ?_⟩
    · rw [toNat_ofNat_byte (by omega)]
      exact .inr (.inr (.inl ⟨first.1, first.2, rfl⟩))
    · rw [complete_cons, complete_cons, complete_nil, toNat_ofNat_byte (n := b) (by omega),
        toNat_ofNat_byte (by omega), ← code]

/-- The range of the second byte keeps out what fits into three bytes, and what no character is. -/
theorem form_four (code : n = (((a - 0xF0) * 64 + (b - 0x80)) * 64 + (c - 0x80)) * 64 + (d - 0x80))
    (first : 0xF0 ≤ a ∧ a < 0xF5)
    (second : (if a = 0xF0 then 0x90 else 0x80) ≤ b ∧ b ≤ if a = 0xF4 then 0x8F else 0xBF)
    (third : 0x80 ≤ c ∧ c ≤ 0xBF) (fourth : 0x80 ≤ d ∧ d ≤ 0xBF)
    : String.utf8EncodeChar (Char.ofNat n) = [.ofNat a, .ofNat b, .ofNat c, .ofNat d]
      ∧ Spells (.ofNat a) [.ofNat b, .ofNat c, .ofNat d] (Char.ofNat n) := by
  have ranges : (0x80 ≤ b ∧ b ≤ 0xBF) ∧ (a = 0xF0 → 0x90 ≤ b) ∧ (a = 0xF4 → b ≤ 0x8F) := by
    split at second <;> split at second <;> omega
  constructor
  · have isA : n / 262144 % 8 + 0xF0 = a := by omega
    have isB : n / 4096 % 64 + 0x80 = b := by omega
    have isC : n / 64 % 64 + 0x80 = c := by omega
    have isD : n % 64 + 0x80 = d := by omega
    have valid : n.isValidChar := by unfold Nat.isValidChar; omega
    rw [utf8EncodeChar_eq, toNat_ofNat valid, if_neg (by omega), if_neg (by omega),
      if_neg (by omega), isA, isB, isC, isD]
  · refine ⟨⟨a - 0xF0, 3, if a = 0xF0 then 0x90 else 0x80, if a = 0xF4 then 0x8F else 0xBF⟩,
      lead?_eq_some_iff.mpr ?_,
      isTail_cons (by omega) second
        (isTail_cons (by omega) third (isTail_cons (by omega) fourth rfl)), ?_⟩
    · rw [toNat_ofNat_byte (by omega)]
      exact .inr (.inr (.inr ⟨first.1, first.2, rfl⟩))
    · rw [complete_cons, complete_cons, complete_cons, complete_nil,
        toNat_ofNat_byte (n := b) (by omega), toNat_ofNat_byte (n := c) (by omega),
        toNat_ofNat_byte (by omega), ← code]

end Forms

/-- What is read is written with the bytes that it is read from. -/
theorem utf8EncodeChar_of_spells {byte : UInt8} {tail : List UInt8} {c : Char}
    (spells : Spells byte tail c)
    : String.utf8EncodeChar c = byte :: tail := by
  obtain ⟨lead, found, isTail, rfl⟩ := spells
  rcases lead?_eq_some_iff.mp found with ⟨most, rfl⟩ | ⟨least, most, rfl⟩ | ⟨least, most, rfl⟩
    | ⟨least, most, rfl⟩
  · obtain rfl : tail = [] := isTail
    simpa only [complete_nil, UInt8.ofNat_toNat] using (form_one most).1
  · obtain ⟨second, _, rfl, least₂, most₂, rfl⟩ := isTail
    have form := form_two (n := complete (byte.toNat - 0xC0) [second])
      (by rw [complete_cons, complete_nil]) ⟨least, most⟩ ⟨least₂, most₂⟩
    simpa only [UInt8.ofNat_toNat] using form.1
  · obtain ⟨second, _, rfl, least₂, most₂, third, _, rfl, least₃, most₃, rfl⟩ := isTail
    have form := form_three (n := complete (byte.toNat - 0xE0) [second, third])
      (by rw [complete_cons, complete_cons, complete_nil]) ⟨least, most⟩ ⟨least₂, most₂⟩
      ⟨least₃, most₃⟩
    simpa only [UInt8.ofNat_toNat] using form.1
  · obtain ⟨second, _, rfl, least₂, most₂, third, _, rfl, least₃, most₃, fourth, _, rfl, least₄,
      most₄, rfl⟩ := isTail
    have form := form_four (n := complete (byte.toNat - 0xF0) [second, third, fourth])
      (by rw [complete_cons, complete_cons, complete_cons, complete_nil]) ⟨least, most⟩
      ⟨least₂, most₂⟩ ⟨least₃, most₃⟩ ⟨least₄, most₄⟩
    simpa only [UInt8.ofNat_toNat] using form.1

/-- What is written is read from the bytes that it is written with. -/
theorem exists_spells (c : Char)
    : ∃ byte tail, String.utf8EncodeChar c = byte :: tail ∧ Spells byte tail c := by
  have valid : c.toNat < 0xD800 ∨ 0xDFFF < c.toNat ∧ c.toNat < 0x110000 := c.valid
  have is := Char.ofNat_toNat c
  generalize c.toNat = n at valid is
  subst is
  by_cases one : n < 0x80
  · exact ⟨_, _, form_one one⟩
  by_cases two : n < 0x800
  · exact ⟨_, _, form_two (a := n / 64 + 0xC0) (b := n % 64 + 0x80) (by omega) (by omega)
      (by omega)⟩
  by_cases three : n < 0x10000
  · exact ⟨_, _, form_three (a := n / 4096 + 0xE0) (b := n / 64 % 64 + 0x80) (c := n % 64 + 0x80)
      (by omega) (by omega) (by split <;> split <;> omega) (by omega)⟩
  · exact ⟨_, _, form_four (a := n / 262144 + 0xF0) (b := n / 4096 % 64 + 0x80)
      (c := n / 64 % 64 + 0x80) (d := n % 64 + 0x80) (by omega) (by omega)
      (by split <;> split <;> omega) (by omega) (by omega)⟩

/-- Characters are read just as they are written. -/
theorem spells_iff {byte : UInt8} {tail : List UInt8} {c : Char}
    : Spells byte tail c ↔ String.utf8EncodeChar c = byte :: tail := by
  refine ⟨utf8EncodeChar_of_spells, fun written => ?_⟩
  obtain ⟨first, rest, whole, spells⟩ := exists_spells c
  obtain ⟨rfl, rfl⟩ := List.cons.inj (written.symm.trans whole)
  exact spells

/-- Bytes are read as text just if they are its UTF-8 form. By induction on the text. -/
theorem decodeFrom_eq_ok_iff {bytes : List UInt8} {chars : List Char} {position : Nat}
    : decodeFrom position .between bytes = .ok chars
      ↔ bytes = chars.flatMap String.utf8EncodeChar := by
  induction chars generalizing bytes position with
  | nil =>
    cases bytes with
    | nil => simp [decodeFrom]
    | cons byte bytes => simp [decodeFrom_cons_eq_ok_iff]
  | cons c chars ih =>
    obtain ⟨first, rest, form, spells⟩ := exists_spells c
    rw [List.flatMap_cons, form, List.cons_append]
    cases bytes with
    | nil => simp [decodeFrom]
    | cons byte bytes =>
      rw [decodeFrom_cons_eq_ok_iff]
      constructor
      · rintro ⟨tail, behind, own, more, rfl, read, others, same⟩
        obtain ⟨rfl, rfl⟩ := List.cons.inj same
        obtain ⟨rfl, rfl⟩ := List.cons.inj (form.symm.trans (spells_iff.mp read))
        rw [ih.mp others]
      · intro whole
        obtain ⟨rfl, rfl⟩ := List.cons.inj whole
        exact ⟨rest, _, c, chars, rfl, spells, ih.mpr rfl, rfl⟩

theorem decode_eq_ok_iff {bytes : List UInt8} {chars : List Char}
    : decode bytes = .ok chars ↔ bytes = chars.flatMap String.utf8EncodeChar :=
  decodeFrom_eq_ok_iff

end CriticalCss.Text.Utf8
