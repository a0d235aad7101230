import Safekeep.Json.Read
import Mathlib

/-!
# Reading back what the printer writes

The reader takes the indented text of an array of flat records back to the array: each record an
object whose members are, in the order of the record's fields, a whole number within a word's
range, a text a text field accepts, or one of a variants field's names
(`readBytes_pretty_records`). Any string survives the trip: the printer escapes a quote, a
backslash and every control character, and the reader takes each escape back to the character's
bytes (`Source.stringBytes_escapeChar`), so a key or a text reads back as written.

The reader walks bytes by index. `Source.Sees src i bs` says that the bytes from `i` on start with
`bs`; each step of the reader is a lemma about what it does at an index where it sees the bytes of
some printed text, and the runs over members and elements are inductions over those steps
(`Source.readFields_members`, `Source.readItemsAs_records`).
-/

namespace Safekeep.Json

/-! ## 1. The bytes of a text -/

def bytesOf (cs : List Char) : List UInt8 := cs.flatMap String.utf8EncodeChar

@[simp] theorem bytesOf_nil : bytesOf [] = [] := rfl

@[simp] theorem bytesOf_append (cs ds : List Char) :
    bytesOf (cs ++ ds) = bytesOf cs ++ bytesOf ds := List.flatMap_append

theorem bytesOf_cons (c : Char) (cs : List Char) :
    bytesOf (c :: cs) = String.utf8EncodeChar c ++ bytesOf cs := List.flatMap_cons

/-- An ASCII character is one byte, its code. -/
@[simp] theorem bytesOf_cons_ascii {c : Char} (h : c.toNat < 128) (cs : List Char) :
    bytesOf (c :: cs) = UInt8.ofNat c.toNat :: bytesOf cs := by
  have hv : c.val.toNat ≤ 127 := Nat.le_of_lt_succ h
  rw [bytesOf, List.flatMap_cons, String.utf8EncodeChar, if_pos hv]
  rfl

theorem length_le_length_bytesOf (cs : List Char) : cs.length ≤ (bytesOf cs).length := by
  induction cs with
  | nil => rfl
  | cons c rest ih =>
    rw [bytesOf_cons, List.length_append, String.length_utf8EncodeChar, List.length_cons]
    have := c.utf8Size_pos
    omega

theorem toList_toUTF8 (s : String) : s.toUTF8.data.toList = bytesOf s.toList := by
  rw [String.toUTF8_eq_toByteArray, ← String.utf8Encode_toList, List.utf8Encode,
    List.data_toByteArray]
  rfl

def IsBlank (c : Char) : Prop := c = ' ' ∨ c = '\n'

theorem toList_quoteString (s : String) :
    (quoteString s).toList = '"' :: (s.toList.flatMap escapeChar ++ ['"']) := by
  simp [quoteString]

/-! ## 2. Where the reader stands -/

namespace Source

def Sees (src : Source) (i : Nat) (bs : List UInt8) : Prop := bs <+: src.bytes.data.toList.drop i

variable {src : Source} {i : Nat}

theorem byte?_eq (src : Source) (i : Nat) : src.byte? i = src.bytes.data.toList[i]? := by
  unfold byte?
  split
  · rename_i h
    rw [List.getElem?_eq_getElem (by simpa using h)]
    simp [ByteArray.getElem_eq_getElem_data]
  · rename_i h
    rw [List.getElem?_eq_none (by simpa using h)]

theorem lt_size_of_byte? {b : UInt8} (h : src.byte? i = some b) : i < src.bytes.size := by
  unfold byte? at h
  split at h
  · assumption
  · cases h

theorem getElem_of_byte? {b : UInt8} (hi : i < src.bytes.size) (h : src.byte? i = some b) :
    src.bytes[i] = b := by
  unfold byte? at h
  rw [dif_pos hi] at h
  exact Option.some.inj h

theorem sees_iff {bs : List UInt8} : src.Sees i bs ↔ ∃ t, src.bytes.data.toList.drop i = bs ++ t :=
  ⟨fun ⟨t, h⟩ => ⟨t, h.symm⟩, fun ⟨t, h⟩ => ⟨t, h.symm⟩⟩

theorem sees_append {bs cs : List UInt8} :
    src.Sees i (bs ++ cs) ↔ src.Sees i bs ∧ src.Sees (i + bs.length) cs := by
  simp only [sees_iff]
  constructor
  · rintro ⟨t, h⟩
    refine ⟨⟨cs ++ t, by simpa using h⟩, ⟨t, ?_⟩⟩
    rw [← List.drop_drop, h]
    simp
  · rintro ⟨⟨t, h⟩, ⟨t', h'⟩⟩
    rw [← List.drop_drop, h, List.drop_left] at h'
    exact ⟨t', by rw [h, h', List.append_assoc]⟩

theorem Sees.byte? {b : UInt8} {bs : List UInt8} (h : src.Sees i (b :: bs)) :
    src.byte? i = some b := by
  obtain ⟨t, ht⟩ := sees_iff.1 h
  rw [byte?_eq, ← Nat.add_zero i, ← List.getElem?_drop, ht]
  rfl

theorem Sees.tail {b : UInt8} {bs : List UInt8} (h : src.Sees i (b :: bs)) :
    src.Sees (i + 1) bs :=
  ((@sees_append _ _ [b] _).1 h).2

theorem Sees.le_size {bs : List UInt8} (h : src.Sees i bs) (hne : bs ≠ []) :
    i + bs.length ≤ src.bytes.size := by
  obtain ⟨t, ht⟩ := sees_iff.1 h
  have hlen := congrArg List.length ht
  simp only [List.length_drop, Array.length_toList, List.length_append] at hlen
  have : 0 < bs.length := List.length_pos_iff.2 hne
  rw [← ByteArray.size_data]
  omega

/-! ### Blanks -/

theorem skipBlank_blank {b : UInt8} (hb : src.byte? i = some b) (hbl : b = 32 ∨ b = 10) :
    src.skipBlank i = src.skipBlank (i + 1) := by
  rw [skipBlank, dif_pos (lt_size_of_byte? hb)]
  simp only [getElem_of_byte? (lt_size_of_byte? hb) hb]
  rcases hbl with rfl | rfl <;> rfl

theorem skipBlank_stop {b : UInt8} (hb : src.byte? i = some b)
    (hnb : b ≠ 32 ∧ b ≠ 10 ∧ b ≠ 9 ∧ b ≠ 13) : src.skipBlank i = i := by
  rw [skipBlank, dif_pos (lt_size_of_byte? hb)]
  simp only [getElem_of_byte? (lt_size_of_byte? hb) hb]
  simp [hnb.1, hnb.2.1, hnb.2.2.1, hnb.2.2.2]

theorem skipBlank_end (hi : src.bytes.size ≤ i) : src.skipBlank i = i := by
  rw [skipBlank, dif_neg (by omega)]

theorem skipBlank_blanks (ws : List Char) (hws : ∀ c ∈ ws, IsBlank c) (h : src.Sees i (bytesOf ws)) :
    src.skipBlank i = src.skipBlank (i + (bytesOf ws).length) := by
  induction ws generalizing i with
  | nil => rfl
  | cons c rest ih =>
    have hc : c = ' ' ∨ c = '\n' := hws c (List.mem_cons_self ..)
    have hascii : c.toNat < 128 := by rcases hc with rfl | rfl <;> decide
    rw [bytesOf_cons_ascii hascii] at h ⊢
    rw [skipBlank_blank h.byte? (by rcases hc with rfl | rfl <;> decide),
      ih (fun x hx => hws x (List.mem_cons_of_mem _ hx)) h.tail, List.length_cons, Nat.add_assoc,
      Nat.add_comm 1]

theorem skipBlank_to (ws : List Char) (hws : ∀ c ∈ ws, IsBlank c) {b : UInt8} {bs : List UInt8}
    (h : src.Sees i (bytesOf ws ++ b :: bs)) (hnb : b ≠ 32 ∧ b ≠ 10 ∧ b ≠ 9 ∧ b ≠ 13) :
    src.skipBlank i = i + (bytesOf ws).length := by
  rw [skipBlank_blanks ws hws (sees_append.1 h).1, skipBlank_stop (sees_append.1 h).2.byte? hnb]

end Source

/-! ## 3. Strings

The reader takes a plain byte as it is and an escape to the bytes it stands for; the printer
escapes exactly the bytes a reader would not take plainly. -/

def hexValue (b : UInt8) : Option Nat :=
  if 48 ≤ b && b ≤ 57 then some (b.toNat - 48)
  else if 97 ≤ b && b ≤ 102 then some (b.toNat - 87)
  else if 65 ≤ b && b ≤ 70 then some (b.toNat - 55)
  else none

theorem hexDigit_ascii : ∀ a, a < 16 → (hexDigit a).toNat < 128 := by decide

theorem hexValue_hexDigit : ∀ a, a < 16 → hexValue (UInt8.ofNat (hexDigit a).toNat) = some a := by
  decide

/-- Every byte of a character the printer leaves as it is is taken plainly by the reader. -/
theorem plain_bytes {c : Char} (h32 : 32 ≤ c.toNat) (h34 : c ≠ '"') (h92 : c ≠ '\\') :
    ∀ b ∈ String.utf8EncodeChar c, 32 ≤ b ∧ b ≠ 34 ∧ b ≠ 92 := by
  have h34' : c.toNat ≠ 34 := fun h => h34 (Char.ext (UInt32.toNat_inj.mp h))
  have h92' : c.toNat ≠ 92 := fun h => h92 (Char.ext (UInt32.toNat_inj.mp h))
  have hc : c.toNat = c.val.toNat := rfl
  intro b hb
  simp only [String.utf8EncodeChar] at hb
  rw [UInt8.le_iff_toNat_le, ne_eq, ne_eq, ← UInt8.toNat_inj, ← UInt8.toNat_inj]
  -- one byte for ASCII, otherwise every byte is at least 0x80
  split_ifs at hb <;> simp only [List.mem_cons, List.mem_nil_iff, or_false] at hb <;>
    rcases hb with rfl | rfl | rfl | rfl <;>
    simp only [UInt8.toNat_ofNat', UInt8.toNat_ofNat, Nat.reducePow, Nat.reduceMod] <;> omega

theorem utf8Of_eq (c : Char) : Source.utf8Of c.toNat = [c].utf8Encode := by
  rw [Source.utf8Of, Char.ofNat_toNat, String.toUTF8_eq_toByteArray, Char.toString,
    String.singleton_eq_ofList, String.toByteArray_ofList]

theorem push_eq_append (acc : ByteArray) (b : UInt8) : acc.push b = acc ++ [b].toByteArray := by
  apply ByteArray.ext
  simp

theorem fromUTF8?_toByteArray (s : String) : String.fromUTF8? s.toByteArray = some s := by
  rw [String.fromUTF8?, dif_pos s.isValidUTF8]
  rfl

namespace Source

variable {src : Source} {i : Nat}

theorem stringBytes_plain {b : UInt8} (acc : ByteArray)
    (hb : src.byte? i = some b) (h32 : 32 ≤ b) (h34 : b ≠ 34) (h92 : b ≠ 92) :
    src.stringBytes i acc = src.stringBytes (i + 1) (acc.push b) := by
  rw [stringBytes, dif_pos (lt_size_of_byte? hb), hb]
  split
  · contradiction
  · rename_i h; cases h; contradiction
  · rename_i h; cases h; contradiction
  · rename_i heq
    cases heq
    rw [if_neg (by simpa using h32)]

theorem stringBytes_plainBytes (bs : List UInt8) (hbs : ∀ b ∈ bs, 32 ≤ b ∧ b ≠ 34 ∧ b ≠ 92)
    (acc : ByteArray) (h : src.Sees i bs) :
    src.stringBytes i acc = src.stringBytes (i + bs.length) (acc ++ bs.toByteArray) := by
  induction bs generalizing i acc with
  | nil => simp
  | cons b rest ih =>
    obtain ⟨h32, h34, h92⟩ := hbs b (List.mem_cons_self ..)
    rw [stringBytes_plain acc h.byte? h32 h34 h92,
      ih (fun x hx => hbs x (List.mem_cons_of_mem _ hx)) _ h.tail, push_eq_append,
      ByteArray.append_assoc, ← List.toByteArray_append]
    simp [Nat.add_assoc, Nat.add_comm 1]

theorem stringBytes_backslash {bs : ByteArray} {j : Nat} (acc : ByteArray)
    (hb : src.byte? i = some 92) (he : src.readEscape (i + 1) = .ok (bs, j)) (hij : i < j) :
    src.stringBytes i acc = src.stringBytes j (acc ++ bs) := by
  rw [stringBytes, dif_pos (lt_size_of_byte? hb), hb]
  simp [he, hij]

theorem stringBytes_quote {acc : ByteArray} (hb : src.byte? i = some 34) :
    src.stringBytes i acc = .ok (acc, i + 1) := by
  rw [stringBytes, dif_pos (lt_size_of_byte? hb), hb]
  rfl

/-- A backslash and one letter stand for one byte. -/
theorem stringBytes_shortEscape {e v : UInt8} (acc : ByteArray) (h : src.Sees i [92, e])
    (hv : (e = 34 ∧ v = 34) ∨ (e = 92 ∧ v = 92) ∨ (e = 110 ∧ v = 10) ∨ (e = 114 ∧ v = 13) ∨
      (e = 116 ∧ v = 9) ∨ (e = 98 ∧ v = 8) ∨ (e = 102 ∧ v = 12)) :
    src.stringBytes i acc = src.stringBytes (i + 2) (acc ++ ⟨#[v]⟩) := by
  have he : src.readEscape (i + 1) = .ok (⟨#[v]⟩, i + 1 + 1) := by
    have hb := h.tail.byte?
    rcases hv with ⟨rfl, rfl⟩ | ⟨rfl, rfl⟩ | ⟨rfl, rfl⟩ | ⟨rfl, rfl⟩ | ⟨rfl, rfl⟩ | ⟨rfl, rfl⟩ |
      ⟨rfl, rfl⟩ <;> simp [readEscape, hb]
  exact stringBytes_backslash acc h.byte? he (by omega)

theorem stringBytes_shortChar {c e : Char} (acc : ByteArray) (h : src.Sees i (bytesOf ['\\', e]))
    (hce : (e, c) ∈ [('"', '"'), ('\\', '\\'), ('n', '\n'), ('r', '\r'), ('t', '\t'),
      ('b', Char.ofNat 8), ('f', Char.ofNat 12)]) :
    src.stringBytes i acc =
      src.stringBytes (i + (bytesOf ['\\', e]).length) (acc ++ [c].utf8Encode) := by
  simp only [List.mem_cons, Prod.mk.injEq, List.mem_nil_iff, or_false] at hce
  rcases hce with ⟨rfl, rfl⟩ | ⟨rfl, rfl⟩ | ⟨rfl, rfl⟩ | ⟨rfl, rfl⟩ | ⟨rfl, rfl⟩ | ⟨rfl, rfl⟩ |
    ⟨rfl, rfl⟩ <;> exact stringBytes_shortEscape acc h (by decide)

theorem hex4_eq (src : Source) (i : Nat) : src.hex4 i =
    if i + 4 ≤ src.bytes.size then
      match (List.range 4).mapM (fun k => (src.byte? (i + k)).bind hexValue) with
      | some ds => .ok (ds.foldl (fun n d => 16 * n + d) 0, i + 4)
      | none => .error (src.failAt (i + 4) .invalidEscape)
    else .error (src.failAt src.bytes.size .eofString) := rfl

theorem hex4_of_sees {b0 b1 b2 b3 : UInt8} {d0 d1 d2 d3 : Nat}
    (h : src.Sees i [b0, b1, b2, b3]) (h0 : hexValue b0 = some d0) (h1 : hexValue b1 = some d1)
    (h2 : hexValue b2 = some d2) (h3 : hexValue b3 = some d3) :
    src.hex4 i = .ok (16 * (16 * (16 * d0 + d1) + d2) + d3, i + 4) := by
  have hsize := h.le_size (List.cons_ne_nil _ _)
  have e1 := ((@sees_append _ _ [b0] _).1 h).2.byte?
  have e2 := ((@sees_append _ _ [b0, b1] _).1 h).2.byte?
  have e3 := ((@sees_append _ _ [b0, b1, b2] _).1 h).2.byte?
  simp only [List.length_cons, List.length_nil] at e1 e2 e3 hsize
  rw [hex4_eq, if_pos hsize]
  simp [List.range_succ, h.byte?, e1, e2, e3, h0, h1, h2, h3, List.mapM_cons]

/-- A control character without a short escape is written as `\u00` and two hexadecimal
digits. -/
theorem readEscape_control {n : Nat} (hn : n < 32)
    (h : src.Sees i [117, 48, 48, UInt8.ofNat (hexDigit (n / 16)).toNat,
      UInt8.ofNat (hexDigit (n % 16)).toNat]) :
    src.readEscape i = .ok (utf8Of n, i + 5) := by
  have hhex : src.hex4 (i + 1) = .ok (n, i + 1 + 4) := by
    rw [hex4_of_sees h.tail (by decide : hexValue 48 = some 0) (by decide : hexValue 48 = some 0)
      (hexValue_hexDigit _ (by omega)) (hexValue_hexDigit _ (by omega))]
    congr 2
    omega
  have hlo : ¬(0xDC00 ≤ n ∧ n ≤ 0xDFFF) := by omega
  have hhi : ¬(0xD800 ≤ n ∧ n ≤ 0xDBFF) := by omega
  simp [readEscape, h.byte?, hhex, hlo, hhi, bind, Except.bind]

/-- The reader takes the escaped form of a character back to the character's bytes. -/
theorem stringBytes_escapeChar (c : Char) (acc : ByteArray) (h : src.Sees i (bytesOf (escapeChar c))) :
    src.stringBytes i acc =
      src.stringBytes (i + (bytesOf (escapeChar c)).length) (acc ++ [c].utf8Encode) := by
  have hofNat : ∀ n, c.toNat = n → c = Char.ofNat n := fun n hn => hn ▸ (Char.ofNat_toNat c).symm
  unfold escapeChar at h ⊢
  split_ifs at h ⊢ with h1 h2 h3 h4 h5 h6 h7 h8
  · exact stringBytes_shortChar acc h (by simp [h1])
  · exact stringBytes_shortChar acc h (by simp [h2])
  · exact stringBytes_shortChar acc h (by simp [h3])
  · exact stringBytes_shortChar acc h (by simp [h4])
  · exact stringBytes_shortChar acc h (by simp [h5])
  · exact stringBytes_shortChar acc h (by simp [hofNat 8 h6])
  · exact stringBytes_shortChar acc h (by simp [hofNat 12 h7])
  · -- a control character without a short escape: four hexadecimal digits
    have hd : bytesOf ['\\', 'u', '0', '0', hexDigit (c.toNat / 16), hexDigit (c.toNat % 16)] =
        [92, 117, 48, 48, UInt8.ofNat (hexDigit (c.toNat / 16)).toNat,
          UInt8.ofNat (hexDigit (c.toNat % 16)).toNat] := by
      simp [hexDigit_ascii (c.toNat / 16) (by omega), hexDigit_ascii (c.toNat % 16) (by omega)]
    rw [hd] at h ⊢
    rw [stringBytes_backslash acc h.byte? (readEscape_control h8 h.tail) (by omega), utf8Of_eq]
    rfl
  · -- any other character stands for itself
    have hd : bytesOf [c] = String.utf8EncodeChar c := by simp [bytesOf_cons]
    rw [hd] at h ⊢
    rw [stringBytes_plainBytes _ (plain_bytes (by omega) h1 h2) acc h, List.utf8Encode_singleton]

/-- The reader takes the escaped characters of a string and its closing quote back to the
string's bytes. -/
theorem stringBytes_escaped (cs : List Char) (acc : ByteArray)
    (h : src.Sees i (bytesOf (cs.flatMap escapeChar) ++ [34])) :
    src.stringBytes i acc =
      .ok (acc ++ cs.utf8Encode, i + (bytesOf (cs.flatMap escapeChar)).length + 1) := by
  induction cs generalizing i acc with
  | nil => simpa using stringBytes_quote h.byte?
  | cons c rest ih =>
    rw [List.flatMap_cons, bytesOf_append, List.append_assoc] at h
    have hc := (sees_append.1 h).1
    have hrest := (sees_append.1 h).2
    rw [stringBytes_escapeChar c acc hc, ih _ hrest, @List.utf8Encode_cons c rest,
      ByteArray.append_assoc, List.flatMap_cons, bytesOf_append, List.length_append, Nat.add_assoc i]

theorem readString_escaped (s : String)
    (h : src.Sees i (bytesOf (s.toList.flatMap escapeChar) ++ [34])) :
    src.readString i = .ok (s, i + (bytesOf (s.toList.flatMap escapeChar)).length + 1) := by
  rw [readString, stringBytes_escaped _ _ h]
  simp [bind, Except.bind, String.utf8Encode_toList, fromUTF8?_toByteArray]

end Source

/-! ## 4. Whole numbers -/

theorem toNat_of_isDigit {c : Char} (h : c.isDigit = true) : 48 ≤ c.toNat ∧ c.toNat ≤ 57 := by
  simp only [Char.isDigit, Bool.and_eq_true, decide_eq_true_eq, UInt32.le_iff_toNat_le] at h
  exact ⟨h.1, h.2⟩

theorem length_bytesOf_digits {ds : List Char} (hds : ∀ c ∈ ds, c.isDigit = true) :
    (bytesOf ds).length = ds.length := by
  induction ds with
  | nil => rfl
  | cons c rest ih =>
    have := toNat_of_isDigit (hds c (List.mem_cons_self ..))
    rw [bytesOf_cons_ascii (by omega), List.length_cons, List.length_cons,
      ih (fun x hx => hds x (List.mem_cons_of_mem _ hx))]

theorem toNat_byte_of_isDigit {c : Char} (h : c.isDigit = true) :
    (UInt8.ofNat c.toNat).toNat = c.toNat := by
  have := toNat_of_isDigit h
  rw [UInt8.toNat_ofNat', Nat.mod_eq_of_lt (by simp only [Nat.reducePow]; omega)]

theorem le_ofDigitChars (l : List Char) (init : Nat) : init ≤ Nat.ofDigitChars 10 l init := by
  induction l generalizing init with
  | nil => simp
  | cons c rest ih =>
    rw [Nat.ofDigitChars_cons]
    exact le_trans (by omega) (ih _)

/-- The first digit of a positive number's decimal numeral is not `0`. -/
theorem toDigits_head {n : Nat} (hn : 0 < n) :
    ∃ d ds, Nat.toDigits 10 n = d :: ds ∧ 49 ≤ d.toNat ∧ d.toNat ≤ 57 := by
  induction n using Nat.strong_induction_on with
  | _ n ih =>
    rw [Nat.toDigits_eq_if (by omega)]
    split_ifs with hlt
    · have hd : ∀ k, k < 10 → 0 < k →
          49 ≤ (Nat.digitChar k).toNat ∧ (Nat.digitChar k).toNat ≤ 57 := by
        decide
      exact ⟨_, [], rfl, hd n hlt hn⟩
    · obtain ⟨d, ds, hds, hd⟩ := ih (n / 10) (by omega) (by omega)
      exact ⟨d, ds ++ [Nat.digitChar (n % 10)], by rw [hds, List.cons_append], hd⟩

def ScalarEnd (b : UInt8) : Prop := b = 44 ∨ b = 10 ∨ b = 125

theorem ScalarEnd.not_digit {b : UInt8} (hb : ScalarEnd b) : ¬(48 ≤ b ∧ b ≤ 57) := by
  rcases hb with rfl | rfl | rfl <;> decide

namespace Source

variable {src : Source} {i : Nat}

theorem wholeDigits_digits (ds : List Char) (hds : ∀ c ∈ ds, c.isDigit = true) {b : UInt8}
    (h : src.Sees i (bytesOf ds ++ [b])) (hb : ¬(48 ≤ b ∧ b ≤ 57)) (sig : Nat)
    (hfit : Nat.ofDigitChars 10 ds sig ≤ Number.u64Max) :
    src.wholeDigits i sig 0 = (Nat.ofDigitChars 10 ds sig, i + ds.length, 0) := by
  induction ds generalizing i sig with
  | nil =>
    have hbyte : src.byte? i = some b := by simpa using h.byte?
    rw [wholeDigits, dif_pos (lt_size_of_byte? hbyte)]
    simp only [getElem_of_byte? (lt_size_of_byte? hbyte) hbyte]
    rw [if_neg hb]
    simp
  | cons c rest ih =>
    have hc := hds c (List.mem_cons_self ..)
    have hcd := toNat_of_isDigit hc
    have hcb := toNat_byte_of_isDigit hc
    rw [bytesOf_cons_ascii (by omega)] at h
    have hstep : 10 * sig + ((UInt8.ofNat c.toNat).toNat - 48) ≤ Number.u64Max := by
      rw [hcb]
      rw [Nat.ofDigitChars_cons] at hfit
      exact le_trans (le_ofDigitChars rest _) (by simpa using hfit)
    rw [wholeDigits, dif_pos (lt_size_of_byte? h.byte?)]
    simp only [getElem_of_byte? (lt_size_of_byte? h.byte?) h.byte?]
    rw [if_pos (by
        rw [UInt8.le_iff_toNat_le, UInt8.le_iff_toNat_le, hcb]
        simp only [UInt8.toNat_ofNat, Nat.reducePow, Nat.reduceMod]
        omega),
      if_pos (by simpa using hstep), hcb]
    rw [ih (fun x hx => hds x (List.mem_cons_of_mem _ hx)) h.tail, Nat.ofDigitChars_cons]
    · simp [Nat.add_assoc, Nat.add_comm 1]
    · rw [Nat.ofDigitChars_cons] at hfit
      simpa using hfit

/-- The reader reads the decimal numeral of a positive number, followed by a byte that ends a
scalar, as that number; after a minus sign, as its negation while a signed word holds it. -/
theorem readNumber_pos {n : Nat} (hpos : 0 < n) (hn : n ≤ Number.u64Max) {b : UInt8}
    (h : src.Sees i (bytesOf (Nat.toDigits 10 n) ++ [b])) (hb : ScalarEnd b) (positive : Bool) :
    src.readNumber positive i =
      .ok (if positive then .nat n
        else if n ≤ Nat.pow 2 63 then .neg (-(n : Int)) else .float (-(nearestFloat n)).toBits,
        i + (Nat.toDigits 10 n).length) := by
  have hdigits : ∀ c ∈ Nat.toDigits 10 n, c.isDigit = true :=
    fun c hc => Nat.isDigit_of_mem_toDigits (by omega) (by omega) hc
  obtain ⟨d, ds, hds, hd⟩ := toDigits_head hpos
  have hj : i + (Nat.toDigits 10 n).length = i + 1 + ds.length := by
    rw [hds, List.length_cons]
    omega
  rw [hds] at h hdigits
  have hdd := hdigits d (List.mem_cons_self ..)
  have hdb := toNat_byte_of_isDigit hdd
  rw [bytesOf_cons_ascii (by omega), List.cons_append] at h
  have hval : Nat.ofDigitChars 10 ds (d.toNat - 48) = n := by
    have := @Nat.ofDigitChars_ten_toDigits n
    rw [hds, Nat.ofDigitChars_cons] at this
    simpa using this
  have hwhole : src.wholeDigits (i + 1) (d.toNat - 48) 0 = (n, i + 1 + ds.length, 0) := by
    rw [wholeDigits_digits ds (fun c hc => hdigits c (List.mem_cons_of_mem _ hc)) h.tail
      hb.not_digit _ (by rw [hval]; exact hn), hval]
  have hend : src.byte? (i + 1 + ds.length) = some b := by
    have := (sees_append.1 h.tail).2
    rw [length_bytesOf_digits (fun c hc => hdigits c (List.mem_cons_of_mem _ hc))] at this
    exact this.byte?
  have hrange : 49 ≤ UInt8.ofNat d.toNat ∧ UInt8.ofNat d.toNat ≤ 57 := by
    rw [UInt8.le_iff_toNat_le, UInt8.le_iff_toNat_le, hdb]
    simp only [UInt8.toNat_ofNat, Nat.reducePow, Nat.reduceMod]
    omega
  have hne : UInt8.ofNat d.toNat ≠ 48 := by
    intro h48
    have := congrArg UInt8.toNat h48
    simp only [hdb, UInt8.toNat_ofNat, Nat.reducePow, Nat.reduceMod] at this
    omega
  unfold readNumber
  rw [h.byte?]
  dsimp only
  split
  · rename_i heq; cases heq
  · rename_i heq; exact absurd (Option.some.inj heq) hne
  · rename_i heq
    cases heq
    rw [if_pos hrange, hdb, hwhole, hj, show Nat.pow 2 63 = 9223372036854775808 from rfl]
    by_cases hsmall : n ≤ 9223372036854775808 <;> rcases hb with rfl | rfl | rfl <;>
      cases positive <;> simp [hend, bind, Except.bind, hpos.ne', hsmall]

/-- The reader reads a whole number back from its decimal numeral followed by a byte that ends
a scalar. -/
theorem readNumber_toDigits {n : Nat} (hn : n ≤ Number.u64Max) {b : UInt8}
    (h : src.Sees i (bytesOf (Nat.toDigits 10 n) ++ [b])) (hb : ScalarEnd b) :
    src.readNumber true i = .ok (.nat n, i + (Nat.toDigits 10 n).length) := by
  rcases Nat.eq_zero_or_pos n with rfl | hpos
  · -- `0` is the one numeral that starts with `0`
    have h0 : src.Sees i [48, b] := h
    have hdig : src.digitAt (i + 1) = false := by
      rcases hb with rfl | rfl | rfl <;> simp [digitAt, h0.tail.byte?]
    unfold readNumber
    rcases hb with rfl | rfl | rfl <;> simp [h0.byte?, h0.tail.byte?, hdig, bind, Except.bind]
  · simpa using readNumber_pos hpos hn h hb true

theorem readNumber_neg {n : Nat} (hpos : 0 < n) (hn : n ≤ Nat.pow 2 63) {b : UInt8}
    (h : src.Sees i (bytesOf (Nat.toDigits 10 n) ++ [b])) (hb : ScalarEnd b) :
    src.readNumber false i = .ok (.neg (-(n : Int)), i + (Nat.toDigits 10 n).length) := by
  rw [readNumber_pos hpos (le_trans hn (by decide)) h hb false]
  simp [hn]

theorem colon_at (h : src.byte? i = some 58) : src.colon i = .ok (i + 1) := by
  simp [colon, skipBlank_stop h (by decide), h]

end Source

/-! ## 5. Scalars -/

/-- What a shape reads on its own from a value's compact text: a whole number within a word
shape's range, a text that a text shape accepts, or one of a variants shape's names. -/
inductive Scalar : Shape → Value → Prop
  | word {lo hi : Int} {name : String} {n : Nat} :
      lo ≤ n → n ≤ hi → n ≤ Number.u64Max → Scalar (.word lo hi name) (.num (.nat n))
  | neg {lo hi : Int} {name : String} {v : Int} :
      v < 0 → lo ≤ v → v ≤ hi → Number.i64Min ≤ v → Scalar (.word lo hi name) (.num (.neg v))
  | text {expecting : String} {refuse : String → Option String} {s : String} :
      refuse s = none → Scalar (.text expecting refuse) (.str s)
  | variant {names : List String} {s : String} : s ∈ names → Scalar (.variants names) (.str s)

theorem Scalar.prettyAt {sh : Shape} {v : Value} (hv : Scalar sh v) (L : Nat) :
    v.prettyAt L = v.compact := by
  cases hv <;> simp [Value.prettyAt]

theorem compact_neg {v : Int} (hv : v < 0) :
    (Value.num (.neg v)).compact.toList = '-' :: Nat.toDigits 10 v.natAbs := by
  cases v with
  | ofNat n => exact absurd hv (by simp)
  | negSucc n => simp [Value.compact, Number.text, Number.intText, Number.digitsOf]

namespace Source

variable {src : Source} {i : Nat}

/-- A quoted string after blanks: the reader skips the blanks, finds the quote and reads the
string back. -/
theorem readString_quoted {s : String} (ws : List Char) (hws : ∀ c ∈ ws, IsBlank c)
    {rest : List UInt8} (h : src.Sees i (bytesOf (ws ++ (quoteString s).toList) ++ rest)) :
    src.skipBlank i = i + (bytesOf ws).length ∧ src.byte? (i + (bytesOf ws).length) = some 34 ∧
      src.readString (i + (bytesOf ws).length + 1) =
        .ok (s, i + (bytesOf (ws ++ (quoteString s).toList)).length) := by
  have hb : bytesOf (ws ++ (quoteString s).toList) =
      bytesOf ws ++ 34 :: (bytesOf (s.toList.flatMap escapeChar) ++ [34]) := by
    simp [toList_quoteString]
  rw [hb] at h ⊢
  rw [List.append_assoc, List.cons_append] at h
  have hbody : src.Sees (i + (bytesOf ws).length + 1)
      (bytesOf (s.toList.flatMap escapeChar) ++ [34]) :=
    (sees_append.1 (sees_append.1 h).2.tail).1
  refine ⟨skipBlank_to ws hws h (by decide), (sees_append.1 h).2.byte?, ?_⟩
  rw [readString_escaped s hbody]
  simp only [List.length_append, List.length_cons, List.length_nil]
  congr 2
  omega

/-- A scalar after blanks, followed by a byte that ends a scalar, reads back as itself. -/
theorem readAs_scalar {sh : Shape} {v : Value} (hv : Scalar sh v) (ws : List Char)
    (hws : ∀ c ∈ ws, IsBlank c) {b : UInt8} (hb : ScalarEnd b)
    (h : src.Sees i (bytesOf (ws ++ v.compact.toList) ++ [b])) (fuel depth : Nat) :
    src.readAs (fuel + 1) depth sh i = .ok (v, i + (bytesOf (ws ++ v.compact.toList)).length) := by
  rw [bytesOf_append, List.append_assoc] at h
  cases hv with
  | word hlo hhi hfit =>
    rename_i lo hi name n
    have hc : (Value.num (.nat n)).compact.toList = Nat.toDigits 10 n := by
      simp [Value.compact, Number.text]
    rw [hc] at h ⊢
    have hdigits : ∀ c ∈ Nat.toDigits 10 n, c.isDigit = true :=
      fun c hc => Nat.isDigit_of_mem_toDigits (by omega) (by omega) hc
    have hnum := readNumber_toDigits hfit (sees_append.1 h).2 hb
    obtain ⟨d, ds, hds⟩ := List.exists_cons_of_ne_nil (@Nat.toDigits_ne_nil n 10)
    have hd := toNat_of_isDigit (hdigits d (by rw [hds]; exact List.mem_cons_self ..))
    rw [hds, bytesOf_cons_ascii (by omega), List.cons_append] at h
    have hdig : ¬(UInt8.ofNat d.toNat = 45) ∧ 48 ≤ UInt8.ofNat d.toNat ∧ UInt8.ofNat d.toNat ≤ 57 := by
      rw [← UInt8.toNat_inj, UInt8.le_iff_toNat_le, UInt8.le_iff_toNat_le]
      simp only [UInt8.toNat_ofNat', UInt8.toNat_ofNat, Nat.reducePow, Nat.reduceMod]
      omega
    have hskip : src.skipBlank i = i + (bytesOf ws).length := by
      refine skipBlank_to ws hws h ?_
      simp only [ne_eq, ← UInt8.toNat_inj, UInt8.toNat_ofNat', UInt8.toNat_ofNat, Nat.reducePow,
        Nat.reduceMod]
      omega
    have hfits : lo ≤ (n : Int) ∧ (n : Int) ≤ hi := ⟨hlo, hhi⟩
    simp [readAs, hskip, (sees_append.1 h).2.byte?, hdig, hnum, wordFault, hfits,
      length_bytesOf_digits hdigits]
    omega
  | neg hneg hlo hhi hmin =>
    rename_i lo hi name v
    rw [compact_neg hneg] at h ⊢
    rw [bytesOf_cons_ascii (by decide), List.cons_append] at h
    have hmag : v.natAbs ≤ Nat.pow 2 63 := by
      rw [Number.i64Min, show Int.pow 2 63 = 9223372036854775808 from rfl] at hmin
      rw [show Nat.pow 2 63 = 9223372036854775808 from rfl]
      omega
    have hnum := readNumber_neg (by omega) hmag (sees_append.1 h).2.tail hb
    have hdigits : ∀ c ∈ Nat.toDigits 10 v.natAbs, c.isDigit = true :=
      fun c hc => Nat.isDigit_of_mem_toDigits (by omega) (by omega) hc
    have hval : -(v.natAbs : Int) = v := by omega
    have hfits : lo ≤ v ∧ v ≤ hi := ⟨hlo, hhi⟩
    simp only [hval] at hnum
    simp [readAs, skipBlank_to ws hws h (by decide), (sees_append.1 h).2.byte?, hnum, wordFault,
      hfits, length_bytesOf_digits hdigits]
    omega
  | text hr =>
    rename_i expecting refuse s
    rw [← List.append_assoc, ← bytesOf_append] at h
    obtain ⟨hskip, hquote, hstr⟩ := readString_quoted ws hws h
    simp [readAs, hskip, hquote, hstr, hr, Value.compact]
  | variant hs =>
    rename_i names s
    rw [← List.append_assoc, ← bytesOf_append] at h
    obtain ⟨hskip, hquote, hstr⟩ := readString_quoted ws hws h
    simp [readAs, hskip, hquote, hstr, hs, Value.compact]

end Source

/-! ## 6. Records -/

/-- The separator the printer writes before a member or an element: a line feed before the
first, a comma and a line feed before the others. -/
def sep (first : Bool) : List Char := if first then ['\n'] else [',', '\n']

def lead (first : Bool) : List Char := if first then [] else [',']

theorem sep_append (first : Bool) (l : List Char) : sep first ++ l = lead first ++ '\n' :: l := by
  cases first <;> rfl

/-- The text of a record's members after its `{` at level `L`, up to its `}`: each member on a
line of its own at level `L + 1`, then a line break and the indentation of the `}`. -/
def membersText (L : Nat) (first : Bool) : List (String × Value) → List Char
  | [] => '\n' :: (indent L).toList
  | (k, v) :: ms => sep first ++ (indent (L + 1)).toList ++ (quoteString k).toList ++ [':', ' '] ++
      (v.prettyAt (L + 1)).toList ++ membersText L false ms

theorem membersText_prettyMembers (L : Nat) :
    ∀ (first : Bool) (ms : List (String × Value)), ms ≠ [] →
      sep first ++ (prettyMembers (L + 1) ms).toList ++ '\n' :: (indent L).toList =
        membersText L first ms
  | _, [], h => absurd rfl h
  | first, [(k, v)], _ => by simp [prettyMembers, membersText]
  | first, (k, v) :: m :: ms, _ => by
    rw [membersText, ← membersText_prettyMembers L false (m :: ms) (List.cons_ne_nil _ _)]
    simp [prettyMembers, sep]

theorem prettyAt_obj (L : Nat) {ms : List (String × Value)} (hms : ms ≠ []) :
    ((Value.obj ms).prettyAt L).toList = '{' :: membersText L true ms ++ ['}'] := by
  obtain ⟨m, ms', rfl⟩ := List.exists_cons_of_ne_nil hms
  rw [← membersText_prettyMembers L true (m :: ms') hms]
  simp [Value.prettyAt, sep]

theorem bytesOf_prettyAt_obj (L : Nat) {ms : List (String × Value)} (hms : ms ≠ []) :
    bytesOf ((Value.obj ms).prettyAt L).toList = 123 :: (bytesOf (membersText L true ms) ++ [125]) := by
  simp [prettyAt_obj L hms]

theorem isBlank_sep_indent (L : Nat) : ∀ c ∈ sep true ++ (indent L).toList, IsBlank c := by
  simp [sep, indent, IsBlank]

theorem isBlank_newline_indent (L : Nat) : ∀ c ∈ '\n' :: (indent L).toList, IsBlank c := by
  simp [indent, IsBlank]

namespace Source

variable {src : Source} {i : Nat}

theorem skipBlank_sep_first (L : Nat) {b : UInt8} {rest : List UInt8}
    (h : src.Sees i (bytesOf (sep true ++ (indent (L + 1)).toList) ++ b :: rest))
    (hnb : b ≠ 32 ∧ b ≠ 10 ∧ b ≠ 9 ∧ b ≠ 13) :
    src.skipBlank i = i + (bytesOf (sep true ++ (indent (L + 1)).toList)).length ∧
      src.byte? (i + (bytesOf (sep true ++ (indent (L + 1)).toList)).length) = some b :=
  ⟨skipBlank_to _ (isBlank_sep_indent (L + 1)) h hnb, (sees_append.1 h).2.byte?⟩

/-- Before any later entry a comma stands first, and blanks lead from after it to the entry. -/
theorem skipBlank_sep_next (L : Nat) {b : UInt8} {rest : List UInt8}
    (h : src.Sees i (bytesOf (sep false ++ (indent (L + 1)).toList) ++ b :: rest))
    (hnb : b ≠ 32 ∧ b ≠ 10 ∧ b ≠ 9 ∧ b ≠ 13) :
    src.skipBlank i = i ∧ src.byte? i = some 44 ∧
      src.skipBlank (i + 1) = i + (bytesOf (sep false ++ (indent (L + 1)).toList)).length ∧
      src.byte? (i + (bytesOf (sep false ++ (indent (L + 1)).toList)).length) = some b := by
  have h' : src.Sees i (44 :: (bytesOf ('\n' :: (indent (L + 1)).toList) ++ b :: rest)) := by
    simpa [sep] using h
  have hlen : (bytesOf (sep false ++ (indent (L + 1)).toList)).length =
      1 + (bytesOf ('\n' :: (indent (L + 1)).toList)).length := by
    simp [sep, Nat.add_comm]
  rw [hlen, ← Nat.add_assoc]
  exact ⟨skipBlank_stop h'.byte? (by decide), h'.byte?,
    skipBlank_to _ (isBlank_newline_indent (L + 1)) h'.tail hnb, (sees_append.1 h'.tail).2.byte?⟩

theorem skipBlank_close (L : Nat) {b : UInt8} {rest : List UInt8}
    (h : src.Sees i (bytesOf ('\n' :: (indent L).toList) ++ b :: rest))
    (hnb : b ≠ 32 ∧ b ≠ 10 ∧ b ≠ 9 ∧ b ≠ 13) :
    src.skipBlank i = i + (bytesOf ('\n' :: (indent L).toList)).length ∧
      src.byte? (i + (bytesOf ('\n' :: (indent L).toList)).length) = some b :=
  ⟨skipBlank_to _ (isBlank_newline_indent L) h hnb, (sees_append.1 h).2.byte?⟩

/-- Before a member the reader finds the key's opening quote, past the comma that separates it
from the member before and the blanks after that. -/
theorem nextKey_item (first : Bool) (ws : List Char) (hws : ∀ c ∈ ws, IsBlank c)
    {rest : List UInt8} (h : src.Sees i (bytesOf (lead first ++ ws) ++ 34 :: rest)) :
    src.nextKey i first = .ok (.item (i + (bytesOf (lead first ++ ws)).length)) := by
  cases first with
  | true =>
    have h' : src.Sees i (bytesOf ws ++ 34 :: rest) := by simpa [lead] using h
    have hskip := skipBlank_to ws hws h' (by decide)
    have hq := (sees_append.1 h').2.byte?
    rw [show lead true ++ ws = ws from rfl]
    generalize i + (bytesOf ws).length = j at hskip hq ⊢
    simp [nextKey, hskip, hq]
  | false =>
    -- the comma stops the first skip; the blanks after it lead to the quote
    have h' : src.Sees i (44 :: (bytesOf ws ++ 34 :: rest)) := by simpa [lead] using h
    have hskip := skipBlank_to ws hws h'.tail (by decide)
    have hq := (sees_append.1 h'.tail).2.byte?
    have hlen : i + (bytesOf (lead false ++ ws)).length = i + 1 + (bytesOf ws).length := by
      simp [lead]
      omega
    rw [hlen]
    generalize i + 1 + (bytesOf ws).length = j at hskip hq
    simp [nextKey, skipBlank_stop h'.byte? (by decide), h'.byte?, hskip, hq]

/-- After the last member the reader finds the closing brace, past any blanks. -/
theorem nextKey_close (first : Bool) (ws : List Char) (hws : ∀ c ∈ ws, IsBlank c)
    {rest : List UInt8} (h : src.Sees i (bytesOf ws ++ 125 :: rest)) :
    src.nextKey i first = .ok (.close (i + (bytesOf ws).length)) := by
  have hskip := skipBlank_to ws hws h (by decide)
  have hb := (sees_append.1 h).2.byte?
  generalize i + (bytesOf ws).length = j at hskip hb ⊢
  simp [nextKey, hskip, hb]

/-- One member, however it is laid out: the reader finds its key, checks that it names a field not
read yet, takes the colon and reads the value against the field's shape from right after it. -/
theorem readFields_member_at {fields : List (String × Shape)} {present : List (String × Value)}
    {k : String} {v : Value} {f : String × Shape} (hf : fields.find? (·.1 == k) = some f)
    (hnew : present.any (·.1 == k) = false) (first : Bool) (ws : List Char)
    (hws : ∀ c ∈ ws, IsBlank c) (fuel depth : Nat) {n : Nat} {rest : List UInt8}
    (h : src.Sees i (bytesOf (lead first ++ ws ++ (quoteString k).toList ++ [':']) ++ rest))
    (hval : src.readAs fuel depth f.2
      (i + (bytesOf (lead first ++ ws ++ (quoteString k).toList ++ [':'])).length) = .ok (v, n)) :
    src.readFields (fuel + 1) depth fields i first present =
      src.readFields fuel depth fields n false ((k, v) :: present) := by
  set A := bytesOf (lead first ++ ws) with hA
  set E := bytesOf (k.toList.flatMap escapeChar) with hE
  -- the member's bytes up to its value: the lead and blanks, the quoted key and the colon
  have hsplit : bytesOf (lead first ++ ws ++ (quoteString k).toList ++ [':']) =
      A ++ 34 :: (E ++ [34, 58]) := by
    simp [hA, hE, toList_quoteString]
  rw [hsplit] at h hval
  simp only [List.append_assoc, List.cons_append, List.nil_append] at h
  have hkey : src.nextKey i first = .ok (.item (i + A.length)) := nextKey_item first ws hws h
  have h2 := (sees_append.1 h).2.tail
  have hstr : src.readString (i + A.length + 1) = .ok (k, i + A.length + 1 + E.length + 1) :=
    readString_escaped k (sees_append.1 (by simpa using h2)).1
  have h3 := (sees_append.1 h2).2
  have hcolon : src.colon (i + A.length + 1 + E.length + 1) =
      .ok (i + A.length + 1 + E.length + 1 + 1) := colon_at h3.tail.byte?
  have hpos : i + (A ++ 34 :: (E ++ [34, 58])).length = i + A.length + 1 + E.length + 1 + 1 := by
    simp only [List.length_append, List.length_cons, List.length_nil]
    omega
  rw [hpos] at hval
  rw [readFields]
  simp only [hkey, hstr, hf, hnew, hcolon, hval, Bool.false_eq_true, if_false]

/-- One member as the indenting printer writes it, with a scalar value followed by a comma or a
line feed. -/
theorem readFields_member {fields : List (String × Shape)} {present : List (String × Value)}
    {k : String} {v : Value} {f : String × Shape} (hf : fields.find? (·.1 == k) = some f)
    (hv : Scalar f.2 v) (hnew : present.any (·.1 == k) = false) (first : Bool) (L fuel depth : Nat)
    {b : UInt8} (hb : b = 44 ∨ b = 10) {rest : List UInt8}
    (h : src.Sees i (bytesOf (sep first ++ (indent (L + 1)).toList ++ (quoteString k).toList ++
      [':', ' '] ++ v.compact.toList) ++ b :: rest)) :
    src.readFields (fuel + 2) depth fields i first present =
      src.readFields (fuel + 1) depth fields
        (i + (bytesOf (sep first ++ (indent (L + 1)).toList ++ (quoteString k).toList ++
          [':', ' '] ++ v.compact.toList)).length) false ((k, v) :: present) := by
  set P := lead first ++ '\n' :: (indent (L + 1)).toList ++ (quoteString k).toList ++ [':']
    with hP
  have htext : sep first ++ (indent (L + 1)).toList ++ (quoteString k).toList ++ [':', ' '] ++
      v.compact.toList = P ++ ([' '] ++ v.compact.toList) := by
    simp [hP, sep_append]
  rw [htext, bytesOf_append] at h ⊢
  rw [List.append_assoc] at h
  have hC : src.Sees (i + (bytesOf P).length)
      ((bytesOf ([' '] ++ v.compact.toList) ++ [b]) ++ rest) := by
    simpa using (sees_append.1 h).2
  have hval := readAs_scalar hv [' '] (by simp [IsBlank]) (hb.imp_right Or.inl)
    (sees_append.1 hC).1 fuel depth
  rw [readFields_member_at hf hnew first _ (isBlank_newline_indent (L + 1)) (fuel + 1) depth h hval,
    List.length_append, Nat.add_assoc]

end Source

def Fits (fields : List (String × Shape)) (m : String × Value) : Prop :=
  ∃ f, fields.find? (·.1 == m.1) = some f ∧ Scalar f.2 m.2

/-- After a member comes a comma when more members follow, else the line break before the brace. -/
theorem bytesOf_membersText_false (L : Nat) (ms : List (String × Value)) :
    ∃ b rest, bytesOf (membersText L false ms) = b :: rest ∧ (b = 44 ∨ b = 10) := by
  cases ms with
  | nil => exact ⟨10, bytesOf (indent L).toList, by simp [membersText], Or.inr rfl⟩
  | cons m ms =>
    obtain ⟨k, v⟩ := m
    exact ⟨44, bytesOf ('\n' :: (indent (L + 1)).toList ++ (quoteString k).toList ++ [':', ' '] ++
      (v.prettyAt (L + 1)).toList ++ membersText L false ms), by simp [membersText, sep], Or.inl rfl⟩

/-- Once a member is read, the members after it are still new, as no name comes twice. -/
theorem fresh_cons {present : List (String × Value)} {k : String} {v : Value}
    {ms : List (String × Value)} (hnd : (((k, v) :: ms).map Prod.fst).Nodup)
    (hnew : ∀ m ∈ (k, v) :: ms, present.any (·.1 == m.1) = false) :
    ∀ m ∈ ms, ((k, v) :: present).any (·.1 == m.1) = false := by
  intro m hm
  have hk : m.1 ≠ k := fun hmk => (List.nodup_cons.1 hnd).1 (List.mem_map.2 ⟨m, hm, hmk⟩)
  simp only [List.any_cons, Bool.or_eq_false_iff, beq_eq_false_iff_ne]
  exact ⟨hk.symm, hnew m (List.mem_cons_of_mem _ hm)⟩

namespace Source

variable {src : Source} {i : Nat}

/-- The members of a record, each naming a field of its own and none named before, read back in
order up to the closing brace. The induction is on the members; the ones read so far are kept,
newest first, in `present`. -/
theorem readFields_members {fields : List (String × Shape)} (L depth : Nat) :
    ∀ (ms : List (String × Value)) (first : Bool) (present : List (String × Value)) (fuel i : Nat)
      {rest : List UInt8}, (∀ m ∈ ms, Fits fields m) → (∀ m ∈ ms, present.any (·.1 == m.1) = false) →
      (ms.map Prod.fst).Nodup → src.Sees i (bytesOf (membersText L first ms) ++ 125 :: rest) →
      src.readFields (fuel + ms.length + 1) depth fields i first present =
        .ok (present.reverse ++ ms, i + (bytesOf (membersText L first ms)).length)
  | [], first, present, fuel, i, rest, _, _, _, h => by
    rw [readFields, nextKey_close first _ (isBlank_newline_indent L) h]
    simp [membersText]
  | (k, v) :: ms, first, present, fuel, i, rest, hfit, hnew, hnd, h => by
    obtain ⟨f, hf, hv⟩ := hfit (k, v) List.mem_cons_self
    obtain ⟨b, rest', hb', hb⟩ := bytesOf_membersText_false L ms
    have hpretty : (v.prettyAt (L + 1)).toList = v.compact.toList := by rw [hv.prettyAt]
    have htext : membersText L first ((k, v) :: ms) = (sep first ++ (indent (L + 1)).toList ++
        (quoteString k).toList ++ [':', ' '] ++ v.compact.toList) ++ membersText L false ms := by
      rw [membersText, hpretty]
    rw [htext, bytesOf_append, List.append_assoc] at h ⊢
    have hrest := (sees_append.1 h).2
    rw [hb', List.cons_append] at h
    have hstep := readFields_member hf hv (hnew (k, v) List.mem_cons_self) first L
      (fuel + ms.length) depth hb h
    rw [List.length_cons, show fuel + (ms.length + 1) + 1 = fuel + ms.length + 2 by omega, hstep,
      readFields_members L depth ms false ((k, v) :: present) fuel _
        (fun m hm => hfit m (List.mem_cons_of_mem _ hm)) (fresh_cons hnd hnew) (List.nodup_cons.1 hnd).2 hrest]
    simp only [List.reverse_cons, List.append_assoc, List.singleton_append, bytesOf_append,
      List.length_append, Nat.add_assoc]

end Source

/-! ## 7. Whole records -/

/-- The members of an object as the printer writes a record: one member per field, in the fields'
order and under their names, each value read by its field's shape on its own, no name twice. -/
structure Record (fields : List (String × Shape)) (ms : List (String × Value)) : Prop where
  aligned : List.Forall₂ (fun f m => f.1 = m.1 ∧ Scalar f.2 m.2) fields ms
  nodup : (ms.map Prod.fst).Nodup

theorem find?_key_of_nodup {α : Type} {l : List (String × α)} (hnd : (l.map Prod.fst).Nodup)
    {m : String × α} (hm : m ∈ l) : l.find? (·.1 == m.1) = some m := by
  obtain ⟨x, hx⟩ : ∃ x, l.find? (·.1 == m.1) = some x :=
    Option.isSome_iff_exists.1 (List.find?_isSome.2 ⟨m, hm, by simp⟩)
  have hxk : x.1 = m.1 := by simpa using List.find?_some hx
  rw [hx, List.inj_on_of_nodup_map hnd (List.mem_of_find?_eq_some hx) hm hxk]

namespace Record

variable {fields : List (String × Shape)} {ms : List (String × Value)}

theorem keys_eq (hr : Record fields ms) : fields.map Prod.fst = ms.map Prod.fst := by
  obtain ⟨haligned, -⟩ := hr
  induction haligned with
  | nil => rfl
  | cons hfm _ ih => simp [hfm.1, ih]

theorem exists_field (hr : Record fields ms) {m : String × Value} (hm : m ∈ ms) :
    ∃ f ∈ fields, f.1 = m.1 ∧ Scalar f.2 m.2 := by
  obtain ⟨haligned, -⟩ := hr
  induction haligned with
  | nil => cases hm
  | @cons f m' fs ms' hfm _ ih =>
    rcases List.mem_cons.1 hm with rfl | hm'
    · exact ⟨f, List.mem_cons_self, hfm⟩
    · obtain ⟨g, hg, hgm⟩ := ih hm'
      exact ⟨g, List.mem_cons_of_mem _ hg, hgm⟩

theorem fits (hr : Record fields ms) : ∀ m ∈ ms, Fits fields m := by
  intro m hm
  obtain ⟨f, hf, hkey, hv⟩ := hr.exists_field hm
  have hnd : (fields.map Prod.fst).Nodup := hr.keys_eq ▸ hr.nodup
  exact ⟨f, hkey ▸ find?_key_of_nodup hnd hf, hv⟩

/-- No field is missing. -/
theorem firstMissing_eq_none (hr : Record fields ms) (defaulted : Bool) :
    firstMissing defaulted fields ms = none := by
  have hnone : fields.find? (fun f => !f.2.optional && !(ms.any fun p => p.1 == f.1)) = none := by
    rw [List.find?_eq_none]
    intro f hf
    obtain ⟨m, hm, hmf⟩ := List.mem_map.1 (hr.keys_eq ▸ List.mem_map_of_mem hf : f.1 ∈ ms.map Prod.fst)
    have hany : (ms.any fun p => p.1 == f.1) = true := List.any_eq_true.2 ⟨m, hm, by simp [hmf]⟩
    simp [hany]
  simp [firstMissing, hnone]

/-- Putting the members looked up among `all` in field order gives back those aligned with the
fields. The induction is on the alignment. -/
theorem filterMap_find?_aligned {all : List (String × Value)} (hnd : (all.map Prod.fst).Nodup) :
    ∀ {fields : List (String × Shape)} {ms : List (String × Value)},
      List.Forall₂ (fun f m => f.1 = m.1 ∧ Scalar f.2 m.2) fields ms → (∀ m ∈ ms, m ∈ all) →
      fields.filterMap (fun f => (all.find? fun p => p.1 == f.1).map fun p => (f.1, p.2)) = ms
  | _, _, .nil, _ => rfl
  | f :: _, m :: _, .cons hfm h, hall => by
    have hfind : (all.find? fun p => p.1 == f.1) = some m := by
      rw [hfm.1]
      exact find?_key_of_nodup hnd (hall m List.mem_cons_self)
    rw [List.filterMap_cons, hfind, filterMap_find?_aligned hnd h
      (fun m' hm' => hall m' (List.mem_cons_of_mem _ hm'))]
    simp [hfm.1]

theorem inFieldOrder_eq (hr : Record fields ms) : inFieldOrder fields ms = ms :=
  filterMap_find?_aligned hr.nodup hr.aligned fun _ h => h

end Record

namespace Source

variable {src : Source} {i : Nat}

/-- A record printed at level `L` reads back as itself against its shape, when the reader
stands at its opening brace. -/
theorem readAs_record {name : String} {defaulted : Bool} {fields : List (String × Shape)}
    {ms : List (String × Value)} (hr : Record fields ms) (hms : ms ≠ []) (L fuel depth : Nat)
    {rest : List UInt8} (h : src.Sees i (bytesOf ((Value.obj ms).prettyAt L).toList ++ rest)) :
    src.readAs (fuel + ms.length + 2) (depth + 2) (.record name defaulted fields) i =
      .ok (.obj ms, i + (bytesOf ((Value.obj ms).prettyAt L).toList).length) := by
  rw [bytesOf_prettyAt_obj L hms] at h ⊢
  simp only [List.cons_append, List.append_assoc, List.nil_append] at h
  have hskip : src.skipBlank i = i := skipBlank_stop h.byte? (by decide)
  have hfields := readFields_members L (depth + 1) ms true [] fuel (i + 1) hr.fits (by simp)
    hr.nodup h.tail
  simp [readAs, hskip, h.byte?, hfields, hr.firstMissing_eq_none, hr.inFieldOrder_eq]
  omega

end Source

/-! ## 8. Arrays of records -/

/-- The text of an array's elements after its `[` at level `L`, up to its `]`: each element on a
line of its own at level `L + 1`, then a line break and the indentation of the `]`. -/
def itemsText (L : Nat) (first : Bool) : List Value → List Char
  | [] => '\n' :: (indent L).toList
  | x :: xs => sep first ++ (indent (L + 1)).toList ++ (x.prettyAt (L + 1)).toList ++
      itemsText L false xs

theorem itemsText_prettyItems (L : Nat) :
    ∀ (first : Bool) (xs : List Value), xs ≠ [] →
      sep first ++ (prettyItems (L + 1) xs).toList ++ '\n' :: (indent L).toList =
        itemsText L first xs
  | _, [], h => absurd rfl h
  | first, [x], _ => by simp [prettyItems, itemsText]
  | first, x :: y :: xs, _ => by
    rw [itemsText, ← itemsText_prettyItems L false (y :: xs) (List.cons_ne_nil _ _)]
    simp [prettyItems, sep]

theorem bytesOf_prettyAt_arr (L : Nat) {xs : List Value} (hxs : xs ≠ []) :
    bytesOf ((Value.arr xs).prettyAt L).toList = 91 :: (bytesOf (itemsText L true xs) ++ [93]) := by
  obtain ⟨x, xs', rfl⟩ := List.exists_cons_of_ne_nil hxs
  rw [← itemsText_prettyItems L true (x :: xs') hxs]
  simp [Value.prettyAt, sep]

namespace Source

variable {src : Source} {i : Nat}

/-- Before an object element the reader finds its opening brace, past the separator and the
indentation. -/
theorem nextItem_item (first : Bool) (L : Nat) {rest : List UInt8}
    (h : src.Sees i (bytesOf (sep first ++ (indent (L + 1)).toList) ++ 123 :: rest)) :
    src.nextItem i first =
      .ok (.item (i + (bytesOf (sep first ++ (indent (L + 1)).toList)).length)) := by
  cases first with
  | true =>
    obtain ⟨hskip, hb⟩ := skipBlank_sep_first L h (by decide)
    generalize i + (bytesOf (sep true ++ (indent (L + 1)).toList)).length = j at hskip hb ⊢
    simp [nextItem, hskip, hb]
  | false =>
    obtain ⟨hstop, hcomma, hskip, hb⟩ := skipBlank_sep_next L h (by decide)
    generalize i + (bytesOf (sep false ++ (indent (L + 1)).toList)).length = j at hskip hb ⊢
    simp [nextItem, hstop, hcomma, hskip, hb]

/-- After the last element the reader finds the closing bracket, past a line break and the
indentation. -/
theorem nextItem_close (first : Bool) (L : Nat) {rest : List UInt8}
    (h : src.Sees i (bytesOf ('\n' :: (indent L).toList) ++ 93 :: rest)) :
    src.nextItem i first = .ok (.close (i + (bytesOf ('\n' :: (indent L).toList)).length)) := by
  obtain ⟨hskip, hb⟩ := skipBlank_close L h (by decide)
  generalize i + (bytesOf ('\n' :: (indent L).toList)).length = j at hskip hb ⊢
  simp [nextItem, hskip, hb]

/-- The elements of an array of records read back in order up to the closing bracket. The
induction is on the elements; those read so far are kept, newest first, in `acc`. -/
theorem readItemsAs_records {name : String} {defaulted : Bool} {fields : List (String × Shape)}
    (L depth : Nat) :
    ∀ (xs : List (List (String × Value))) (first : Bool) (acc : List Value) (fuel i : Nat)
      {rest : List UInt8}, (∀ ms ∈ xs, Record fields ms ∧ ms ≠ []) →
      src.Sees i (bytesOf (itemsText L first (xs.map .obj)) ++ 93 :: rest) →
      src.readItemsAs (fuel + xs.length + fields.length + 2) (depth + 2)
          (.record name defaulted fields) i first acc =
        .ok (acc.reverse ++ xs.map .obj, i + (bytesOf (itemsText L first (xs.map .obj))).length)
  | [], first, acc, fuel, i, rest, _, h => by
    rw [readItemsAs, nextItem_close first L h]
    simp [itemsText]
  | ms :: xs, first, acc, fuel, i, rest, hxs, h => by
    obtain ⟨hrec, hne⟩ := hxs ms List.mem_cons_self
    have hlen : ms.length = fields.length := hrec.aligned.length_eq.symm
    rw [List.map_cons, itemsText, bytesOf_append, bytesOf_append] at h ⊢
    simp only [List.append_assoc] at h ⊢
    have hrest := (sees_append.1 (sees_append.1 h).2).2
    have hrecord := @readAs_record _ _ name defaulted _ _ hrec hne (L + 1) (fuel + xs.length) depth _
      (sees_append.1 h).2
    rw [hlen] at hrecord
    rw [bytesOf_prettyAt_obj (L + 1) hne, List.cons_append] at h
    rw [show fuel + (ms :: xs).length + fields.length + 2 =
      (fuel + xs.length + fields.length + 2) + 1 by simp; omega, readItemsAs, nextItem_item first L h]
    simp only
    rw [hrecord]
    simp only
    rw [readItemsAs_records L depth xs false (.obj ms :: acc) fuel _
      (fun ms' hm => hxs ms' (List.mem_cons_of_mem _ hm)) hrest]
    simp [Nat.add_assoc]

/-- An array of records printed at level `L` reads back as itself, when the reader stands at its
opening bracket. -/
theorem readAs_records {name : String} {defaulted : Bool} {fields : List (String × Shape)}
    {xs : List (List (String × Value))} (hxs : ∀ ms ∈ xs, Record fields ms ∧ ms ≠ []) (hne : xs ≠ [])
    (L fuel depth : Nat) {rest : List UInt8}
    (h : src.Sees i (bytesOf ((Value.arr (xs.map .obj)).prettyAt L).toList ++ rest)) :
    src.readAs (fuel + xs.length + fields.length + 3) (depth + 3) (.seq (.record name defaulted fields)) i =
      .ok (.arr (xs.map .obj), i + (bytesOf ((Value.arr (xs.map .obj)).prettyAt L).toList).length) := by
  rw [bytesOf_prettyAt_arr L (by simpa using hne)] at h ⊢
  simp only [List.cons_append, List.append_assoc] at h
  have hskip : src.skipBlank i = i := skipBlank_stop h.byte? (by decide)
  have hitems := @readItemsAs_records _ name defaulted fields L depth xs true [] fuel (i + 1) _ hxs h.tail
  simp [readAs, hskip, h.byte?, hitems]
  omega

theorem readAs_emptyArray {elem : Shape} (fuel depth : Nat) {rest : List UInt8}
    (h : src.Sees i (91 :: 93 :: rest)) :
    src.readAs (fuel + 2) (depth + 2) (.seq elem) i = .ok (.arr [], i + 2) := by
  have hskip : src.skipBlank i = i := skipBlank_stop h.byte? (by decide)
  have hskip' : src.skipBlank (i + 1) = i + 1 := skipBlank_stop h.tail.byte? (by decide)
  simp [readAs, readItemsAs, nextItem, hskip, hskip', h.byte?, h.tail.byte?]

end Source

/-! ## 9. Whole documents -/

theorem length_le_membersText (L : Nat) :
    ∀ (first : Bool) (ms : List (String × Value)), ms.length ≤ (membersText L first ms).length
  | _, [] => Nat.zero_le _
  | first, (k, v) :: ms => by
    have := length_le_membersText L false ms
    cases first <;> simp [membersText, sep] <;> omega

theorem length_le_itemsText (L : Nat) :
    ∀ (first : Bool) (xs : List Value), xs.length ≤ (itemsText L first xs).length
  | _, [] => Nat.zero_le _
  | first, x :: xs => by
    have := length_le_itemsText L false xs
    cases first <;> simp [itemsText, sep] <;> omega

/-- A printed array is longer than the number of its elements and than the number of members of
its first record. -/
theorem length_le_prettyAt_arr {ms : List (String × Value)} (hms : ms ≠ []) (xs : List Value) :
    xs.length + 1 ≤ (bytesOf ((Value.arr (.obj ms :: xs)).prettyAt 0).toList).length ∧
      ms.length ≤ (bytesOf ((Value.arr (.obj ms :: xs)).prettyAt 0).toList).length := by
  rw [bytesOf_prettyAt_arr 0 (List.cons_ne_nil _ _)]
  have hitems := length_le_itemsText 0 true (.obj ms :: xs)
  have hbytes := length_le_length_bytesOf (itemsText 0 true (.obj ms :: xs))
  have hfirst : ms.length ≤ (itemsText 0 true (.obj ms :: xs)).length := by
    have hm := length_le_membersText 1 true ms
    simp only [itemsText, prettyAt_obj 1 hms, List.length_append, List.length_cons]
    omega
  simp only [List.length_cons, List.length_append] at hitems ⊢
  omega

/-- A document printed from an array of records reads back as that array against the sequence
shape of those records. -/
theorem readBytes_pretty_records {name : String} {defaulted : Bool} {fields : List (String × Shape)}
    {xs : List (List (String × Value))} (hxs : ∀ ms ∈ xs, Record fields ms ∧ ms ≠ []) :
    readBytes (.seq (.record name defaulted fields)) (Value.arr (xs.map .obj)).pretty.toUTF8 =
      .ok (.arr (xs.map .obj)) := by
  set src : Source := ⟨(Value.arr (xs.map .obj)).pretty.toUTF8⟩ with hsrc
  have hbytes : src.bytes.data.toList = bytesOf ((Value.arr (xs.map .obj)).prettyAt 0).toList := by
    rw [hsrc, toList_toUTF8]
    rfl
  have hsize : src.bytes.size = (bytesOf ((Value.arr (xs.map .obj)).prettyAt 0).toList).length := by
    rw [← hbytes, ← ByteArray.size_data, Array.length_toList]
  have hall : src.Sees 0 (bytesOf ((Value.arr (xs.map .obj)).prettyAt 0).toList ++ []) := by
    rw [Source.Sees, List.drop_zero, hbytes, List.append_nil]
  -- the reader has sixteen steps of fuel per byte, and the document is longer than its elements
  -- and than the members of a record
  have hread : src.readAs (16 * (src.bytes.size + 2)) 128 (.seq (.record name defaulted fields)) 0 =
      .ok (.arr (xs.map .obj), src.bytes.size) := by
    cases xs with
    | nil =>
      have h2 : src.bytes.size = 2 := by rw [hsize]; rfl
      have hempty : src.Sees 0 [91, 93] := by simpa [Value.prettyAt] using hall
      rw [h2]
      exact @Source.readAs_emptyArray src 0 (.record name defaulted fields) 62 126 [] hempty
    | cons ms xs =>
      obtain ⟨hrec, hne⟩ := hxs ms List.mem_cons_self
      obtain ⟨hnum, hfirst⟩ := length_le_prettyAt_arr hne (xs.map .obj)
      rw [← List.map_cons, ← hsize, List.length_map] at hnum
      rw [← List.map_cons, ← hsize, ← hrec.aligned.length_eq] at hfirst
      obtain ⟨fuel, hfuel⟩ : ∃ fuel, 16 * (src.bytes.size + 2) =
          fuel + (ms :: xs).length + fields.length + 3 :=
        ⟨16 * (src.bytes.size + 2) - ((ms :: xs).length + fields.length + 3), by
          simp only [List.length_cons] at hnum ⊢
          omega⟩
      have hrecords := @Source.readAs_records src 0 name defaulted fields (ms :: xs) hxs
        (List.cons_ne_nil _ _) 0 fuel 125 [] hall
      rw [Nat.zero_add] at hrecords
      rw [hfuel, hsize]
      exact hrecords
  have hend : src.skipBlank src.bytes.size = src.bytes.size := Source.skipBlank_end le_rfl
  change src.read (.seq (.record name defaulted fields)) = _
  simp [Source.read, hread, hend]

end Safekeep.Json
