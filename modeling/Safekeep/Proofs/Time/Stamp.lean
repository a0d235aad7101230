import Safekeep.Time.Rfc3339
import Mathlib

/-!
# Timestamps read back as written

An instant written in RFC 3339 form reads back as itself (`parseStamp_textWith`), when its date
lies in the years 0 to 9999: every instant is one a clock can show, its nanoseconds under a
second, or under two seconds within the last second of a minute, which is then written as second
60. The text the log table stores has the strict form, and the strict reader reads it back too
(`parseStrictStamp_textWith`).

The calendar behind it: the date of a day count is a date that exists, and it counts back to the
same day (`Date.isValid_ofDays`, `Date.toDays_ofDays`). The conversion splits a day of a 400-year
era (counted from 1 March of its first year) into centuries of 36524 days, blocks of four years of
1461 days, years of 365 days and a day of the year; the 366th day of a year is the leap day, which
only the last year of a block has, and of the last block of a century only the fourth century's.
-/

namespace Safekeep.Time

/-! ## 1. The calendar -/

def yearOfEra (doe : Int) : Int := (doe - doe / 1460 + doe / 36524 - doe / 146096) / 365

def eraYearStart (yoe : Int) : Int := 365 * yoe + yoe / 4 - yoe / 100

/-- The date of a day of a year counted from 1 March: January and February belong to the next
calendar year. -/
def Date.ofYearDay (y doy : Int) : Date :=
  let mp := (5 * doy + 2) / 153
  let day := doy - (153 * mp + 2) / 5 + 1
  let month := if mp < 10 then mp + 3 else mp - 9
  ⟨y + (if month ≤ 2 then 1 else 0), month.toNat, day.toNat⟩

theorem Date.ofDays_eq_ofYearDay (z : Int) :
    Date.ofDays z =
      let era := (z + 719468) / 146097
      let doe := z + 719468 - era * 146097
      Date.ofYearDay (yearOfEra doe + era * 400) (doe - eraYearStart (yearOfEra doe)) :=
  rfl

/-- Every day of an era is some day of some year of some block of some century, the 366th day
of a year only in a leap year. -/
theorem exists_eraSplit {doe : Int} (h0 : 0 ≤ doe) (h1 : doe < 146097) :
    ∃ C P R t : Int, doe = 36524 * C + 1461 * P + 365 * R + t ∧ 0 ≤ C ∧ C ≤ 3 ∧ 0 ≤ P ∧ P ≤ 24 ∧
      0 ≤ R ∧ R ≤ 3 ∧ 0 ≤ t ∧ t ≤ 365 ∧ (t = 365 → R = 3 ∧ (P < 24 ∨ C = 3)) := by
  refine ⟨min (doe / 36524) 3, (doe - 36524 * min (doe / 36524) 3) / 1461,
    min ((doe - 36524 * min (doe / 36524) 3) % 1461 / 365) 3,
    (doe - 36524 * min (doe / 36524) 3) % 1461 -
      365 * min ((doe - 36524 * min (doe / 36524) 3) % 1461 / 365) 3, ?_⟩
  omega

theorem eraYearStart_split {C P R : Int} (hP : 0 ≤ P ∧ P ≤ 24) (hR : 0 ≤ R ∧ R ≤ 3) :
    eraYearStart (100 * C + 4 * P + R) = 36524 * C + 1461 * P + 365 * R := by
  unfold eraYearStart
  omega

/-- The year of the era a split day falls in: its century, block and year. The leap days before
it are counted by whole blocks, less the centuries, plus the era's last day. -/
theorem yearOfEra_split {C P R t : Int} (hC : 0 ≤ C ∧ C ≤ 3) (hP : 0 ≤ P ∧ P ≤ 24)
    (hR : 0 ≤ R ∧ R ≤ 3) (ht : 0 ≤ t ∧ t ≤ 365) (hleap : t = 365 → R = 3 ∧ (P < 24 ∨ C = 3)) :
    yearOfEra (36524 * C + 1461 * P + 365 * R + t) = 100 * C + 4 * P + R := by
  unfold yearOfEra
  generalize hdoe : 36524 * C + 1461 * P + 365 * R + t = doe
  have h1460 : doe / 1460 = 25 * C + P + (24 * C + P + 365 * R + t) / 1460 := by
    rw [show doe = (24 * C + P + 365 * R + t) + 1460 * (25 * C + P) by rw [← hdoe]; ring,
      Int.add_mul_ediv_left _ _ (by decide)]
    ring
  have h36524 : doe / 36524 = C + (1461 * P + 365 * R + t) / 36524 := by
    rw [show doe = (1461 * P + 365 * R + t) + 36524 * C by rw [← hdoe]; ring,
      Int.add_mul_ediv_left _ _ (by decide)]
    ring
  -- the era's last day is its only day past 146095
  have h146096 : doe / 146096 = if doe = 146096 then 1 else 0 := by
    split_ifs with hlast
    · rw [hlast]
      rfl
    · omega
  rw [h1460, h36524, h146096]
  split_ifs <;> omega

/-- The day count of a day of a year counted from 1 March: the start of its era, the start of
the year in the era, and the day. -/
theorem Date.toDays_ofYearDay (y doy : Int) (hdoy : 0 ≤ doy ∧ doy ≤ 365) :
    (Date.ofYearDay y doy).toDays =
      y / 400 * 146097 + eraYearStart (y - y / 400 * 400) + doy - 719468 := by
  unfold Date.ofYearDay Date.toDays eraYearStart
  dsimp only
  have hmp : 0 ≤ (5 * doy + 2) / 153 ∧ (5 * doy + 2) / 153 ≤ 11 := by omega
  split_ifs <;> omega

/-- A day of a year counted from 1 March is a date that exists, the 366th day only when the next
calendar year is a leap year. The months are taken one by one. -/
theorem Date.isValid_ofYearDay (y doy : Int)
    (hdoy : 0 ≤ doy ∧ doy ≤ 364 ∨ doy = 365 ∧ isLeapYear (y + 1) = true) :
    (Date.ofYearDay y doy).isValid = true := by
  unfold Date.ofYearDay Date.isValid
  dsimp only
  have hmp : (5 * doy + 2) / 153 = 0 ∨ (5 * doy + 2) / 153 = 1 ∨ (5 * doy + 2) / 153 = 2 ∨
      (5 * doy + 2) / 153 = 3 ∨ (5 * doy + 2) / 153 = 4 ∨ (5 * doy + 2) / 153 = 5 ∨
      (5 * doy + 2) / 153 = 6 ∨ (5 * doy + 2) / 153 = 7 ∨ (5 * doy + 2) / 153 = 8 ∨
      (5 * doy + 2) / 153 = 9 ∨ (5 * doy + 2) / 153 = 10 ∨ (5 * doy + 2) / 153 = 11 := by
    omega
  rcases hmp with h | h | h | h | h | h | h | h | h | h | h | h
  case inr.inr.inr.inr.inr.inr.inr.inr.inr.inr.inr =>
    -- February: its 29th day is the 366th of the year, in a leap year only
    simp only [h]
    rcases hdoy with hdoy | ⟨rfl, hleap⟩
    · simp [daysInMonth]
      split_ifs <;> omega
    · simp [daysInMonth, hleap]
  all_goals simp only [h]; simp [daysInMonth]; omega

/-- The date of a day count is a day of a year of its era, split into century, block, year of
the block and day of the year. -/
theorem Date.ofDays_split (z : Int) :
    ∃ era C P R t : Int, z + 719468 = era * 146097 + (36524 * C + 1461 * P + 365 * R + t) ∧
      0 ≤ C ∧ C ≤ 3 ∧ 0 ≤ P ∧ P ≤ 24 ∧ 0 ≤ R ∧ R ≤ 3 ∧ 0 ≤ t ∧ t ≤ 365 ∧
      (t = 365 → R = 3 ∧ (P < 24 ∨ C = 3)) ∧
      Date.ofDays z = Date.ofYearDay (100 * C + 4 * P + R + era * 400) t := by
  rw [Date.ofDays_eq_ofYearDay]
  dsimp only
  generalize hera : (z + 719468) / 146097 = era
  obtain ⟨C, P, R, t, hdoe, hC0, hC3, hP0, hP24, hR0, hR3, ht0, ht365, hleap⟩ :=
    exists_eraSplit (show 0 ≤ z + 719468 - era * 146097 by omega) (by omega)
  refine ⟨era, C, P, R, t, by omega, hC0, hC3, hP0, hP24, hR0, hR3, ht0, ht365, hleap, ?_⟩
  rw [hdoe, yearOfEra_split ⟨hC0, hC3⟩ ⟨hP0, hP24⟩ ⟨hR0, hR3⟩ ⟨ht0, ht365⟩ hleap,
    eraYearStart_split ⟨hP0, hP24⟩ ⟨hR0, hR3⟩]
  congr 1
  ring

/-- The date of a day count counts back to the same day. -/
theorem Date.toDays_ofDays (z : Int) : (Date.ofDays z).toDays = z := by
  obtain ⟨era, C, P, R, t, hz, hC0, hC3, hP0, hP24, hR0, hR3, ht0, ht365, -, hdate⟩ :=
    Date.ofDays_split z
  have hy : (100 * C + 4 * P + R + era * 400) / 400 = era := by omega
  rw [hdate, Date.toDays_ofYearDay _ _ ⟨ht0, ht365⟩, hy,
    show 100 * C + 4 * P + R + era * 400 - era * 400 = 100 * C + 4 * P + R by ring,
    eraYearStart_split ⟨hP0, hP24⟩ ⟨hR0, hR3⟩]
  omega

/-- The date of a day count exists. -/
theorem Date.isValid_ofDays (z : Int) : (Date.ofDays z).isValid = true := by
  obtain ⟨era, C, P, R, t, -, -, -, hP0, hP24, hR0, hR3, ht0, ht365, hleap, hdate⟩ :=
    Date.ofDays_split z
  rw [hdate]
  apply Date.isValid_ofYearDay
  by_cases h365 : t = 365
  · -- the leap day: the next calendar year ends a block, and a century only in the fourth
    obtain ⟨rfl, hcent⟩ := hleap h365
    refine .inr ⟨h365, ?_⟩
    simp only [isLeapYear, decide_eq_true_eq]
    omega
  · exact .inl (by omega)

/-! ## 2. Numerals -/

theorem toList_padded (w n : Nat) :
    (padded w n).toList = List.replicate (w - (Nat.toDigits 10 n).length) '0' ++ Nat.toDigits 10 n := by
  simp [padded]

theorem isDigit_of_mem_padded {w n : Nat} {c : Char} (h : c ∈ (padded w n).toList) :
    c.isDigit = true := by
  rw [toList_padded] at h
  rcases List.mem_append.1 h with h | h
  · rw [List.eq_of_mem_replicate h]
    rfl
  · exact Nat.isDigit_of_mem_toDigits (by decide) (by decide) h

theorem length_padded {w n : Nat} (hw : 0 < w) (hn : n < 10 ^ w) : (padded w n).toList.length = w := by
  have hlen := (Nat.length_toDigits_le_iff (by decide) hw).2 hn
  rw [toList_padded, List.length_append, List.length_replicate]
  omega

theorem ofDigitChars_padded (w n : Nat) : Nat.ofDigitChars 10 (padded w n).toList 0 = n := by
  rw [toList_padded, Nat.ofDigitChars_append, Nat.ofDigitChars_replicate_zero, Nat.mul_zero,
    Nat.ofDigitChars_ten_toDigits]

theorem isBlank_of_isDigit {c : Char} (h : c.isDigit = true) : Text.isBlank c = false := by
  have hc : 48 ≤ c.toNat ∧ c.toNat ≤ 57 := by
    simp only [Char.isDigit, Bool.and_eq_true, decide_eq_true_eq, UInt32.le_iff_toNat_le] at h
    exact ⟨h.1, h.2⟩
  simp only [Text.isBlank, Bool.or_eq_false_iff, Bool.and_eq_false_iff, decide_eq_false_iff_not,
    beq_eq_false_iff_ne, ne_eq]
  omega

theorem skipBlanks_digits {ds : List Char} (hds : ∀ c ∈ ds, c.isDigit = true) (hne : ds ≠ [])
    (rest : List Char) : skipBlanks (ds ++ rest) = ds ++ rest := by
  obtain ⟨c, cs, rfl⟩ := List.exists_cons_of_ne_nil hne
  simp [skipBlanks, isBlank_of_isDigit (hds c List.mem_cons_self)]

/-- Digits followed by anything but a digit: the reader takes them all, when there are `lo` to
`hi` of them and their value fits a signed 64-bit word. -/
theorem scanNumber_digits {lo hi : Nat} {ds rest : List Char} (hds : ∀ c ∈ ds, c.isDigit = true)
    (hne : ds ≠ []) (hlo : lo ≤ ds.length) (hhi : ds.length ≤ hi)
    (hrest : ∀ c ∈ rest.head?, c.isDigit = false) (hv : Nat.ofDigitChars 10 ds 0 ≤ Nat.pow 2 63 - 1) :
    scanNumber lo hi (ds ++ rest) = .ok (Nat.ofDigitChars 10 ds 0, rest) := by
  have htake : (ds ++ rest).takeWhile (fun c => c.isDigit) = ds := by
    rw [List.takeWhile_append_of_pos hds]
    cases rest with
    | nil => simp
    | cons c rest => simp [hrest c rfl]
  have hfold : ds.foldl (fun n c => 10 * n + (c.toNat - 48)) 0 = Nat.ofDigitChars 10 ds 0 := rfl
  unfold scanNumber
  rw [if_neg (by simp [hne]), htake, List.take_of_length_le hhi, if_neg (by omega)]
  dsimp only
  rw [hfold, if_neg (by omega), List.drop_left]

/-- A number written with `w` digits, followed by anything but a digit. -/
theorem scanNumber_padded {lo hi w n : Nat} (hw : 0 < w) (hn : n < 10 ^ w) (hlo : lo ≤ w)
    (hhi : w ≤ hi) (hfit : n ≤ Nat.pow 2 63 - 1) {rest : List Char}
    (hrest : ∀ c ∈ rest.head?, c.isDigit = false) :
    scanNumber lo hi ((padded w n).toList ++ rest) = .ok (n, rest) := by
  have hne : (padded w n).toList ≠ [] := by
    rw [← List.length_pos_iff, length_padded hw hn]
    exact hw
  rw [scanNumber_digits (fun c hc => isDigit_of_mem_padded hc) hne (by rw [length_padded hw hn]; exact hlo)
    (by rw [length_padded hw hn]; exact hhi) hrest (by rw [ofDigitChars_padded]; exact hfit),
    ofDigitChars_padded]

/-! ## 3. Reading the parts of a timestamp -/

/-- A field of two digits within its range. -/
theorem field_padded {l u n : Nat} (hlo : l ≤ n) (htop : n ≤ u) (hn : n < 100) {r : List Char}
    (hrest : ∀ c ∈ r.head?, c.isDigit = false) :
    field 2 l u ((padded 2 n).toList ++ r) = .ok (n, r) := by
  have hne : (padded 2 n).toList ≠ [] := by
    rw [← List.length_pos_iff, length_padded (by decide) hn]
    decide
  unfold field
  rw [skipBlanks_digits (fun c hc => isDigit_of_mem_padded hc) hne,
    scanNumber_padded (by decide) hn (by decide) le_rfl
      (by rw [show Nat.pow 2 63 - 1 = 9223372036854775807 from rfl]; omega) hrest]
  simp only [bind, Except.bind]
  rw [if_neg (by omega)]

/-- A year of four digits. -/
theorem scanYear_padded {y : Nat} (hy : y < 10000) {r : List Char} (hrest : r.head? = some '-') :
    scanYear ((padded 4 y).toList ++ r) = .ok (y, r) := by
  have hlen := length_padded (by decide) (show y < 10 ^ 4 by omega)
  obtain ⟨c, cs, hcs⟩ := List.exists_cons_of_ne_nil (List.ne_nil_of_length_pos (by omega : 0 < (padded 4 y).toList.length))
  have hc := isDigit_of_mem_padded (show c ∈ (padded 4 y).toList by rw [hcs]; exact List.mem_cons_self)
  have hnum : scanNumber 1 4 ((padded 4 y).toList ++ r) = .ok (y, r) :=
    scanNumber_padded (by decide) (by omega) (by decide) le_rfl
      (by rw [show Nat.pow 2 63 - 1 = 9223372036854775807 from rfl]; omega) (by simp [hrest])
  have hskip := skipBlanks_digits (fun c hc => isDigit_of_mem_padded hc)
    (by rw [hcs]; exact List.cons_ne_nil _ _) r
  unfold scanYear
  rw [hskip]
  -- the year starts with a digit, not with a sign
  split
  · rename_i r hr
    rw [hcs] at hr
    simp only [List.cons_append, List.cons.injEq] at hr
    rw [hr.1] at hc
    cases hc
  · rename_i r hr
    rw [hcs] at hr
    simp only [List.cons_append, List.cons.injEq] at hr
    rw [hr.1] at hc
    cases hc
  · rw [hnum]
    simp only [Except.map, bind, Except.bind]
    rw [if_neg (by rw [show Int.pow 2 31 = 2147483648 from rfl]; omega)]

theorem literal_cons {c : Char} (hc : Text.isBlank c = false) (rest : List Char) :
    literal c (c :: rest) = .ok ((), rest) := by
  simp [literal, skipBlanks, hc]

/-- A fraction of `k` digits, then anything but a digit: nanoseconds to the ninth digit. -/
theorem scanFraction_padded {k v : Nat} (hk : 0 < k ∧ k ≤ 9) (hv : v < 10 ^ k) {r : List Char}
    (hrest : ∀ c ∈ r.head?, c.isDigit = false) :
    scanFraction ('.' :: ((padded k v).toList ++ r)) = .ok (v * 10 ^ (9 - k), r) := by
  have hnum : scanNumber 1 9 ((padded k v).toList ++ r) = .ok (v, r) :=
    scanNumber_padded hk.1 hv hk.1 hk.2 (by
      have : 10 ^ k ≤ 10 ^ 9 := Nat.pow_le_pow_right (by decide) hk.2
      rw [show Nat.pow 2 63 - 1 = 9223372036854775807 from rfl]
      simp only [Nat.reducePow] at this
      omega) hrest
  have hdrop : r.dropWhile (fun c => c.isDigit) = r := by
    cases r with
    | nil => rfl
    | cons c r => simp [hrest c rfl]
  simp only [scanFraction, hnum, bind, Except.bind, List.length_append, length_padded hk.1 hv,
    Nat.add_sub_cancel, hdrop, Nat.pow_eq]

/-! ## 4. A whole timestamp -/

/-- An instant a clock can show: its nanoseconds stay under a second, or under two within the
last second of a minute, a leap second. -/
def Instant.Showable (t : Instant) : Prop :=
  t.nanos < 1000000000 ∨ (t.nanos < 2000000000 ∧ t.secondOfDay % 60 = 59)

instance (t : Instant) : Decidable t.Showable := inferInstanceAs (Decidable (_ ∨ _))

theorem Instant.showable (t : Instant) : t.Showable := t.inRange

/-- An instant's own seconds and nanoseconds build it again. -/
@[simp] theorem Instant.ofParts_self (t : Instant) : Instant.ofParts t.seconds t.nanos = t := by
  rw [Instant.ofParts, dif_pos t.inRange]

variable {zone : List Char}

theorem head_fractionText (ns : Nat) (hz : ∀ c ∈ zone.head?, c.isDigit = false) :
    ∀ c ∈ ((fractionText ns).toList ++ zone).head?, c.isDigit = false := by
  unfold fractionText
  split_ifs
  · simpa using hz
  all_goals simp

/-- The fraction written for nanoseconds under a second reads back as them: the fewest of three,
six or nine digits that are exact. -/
theorem scanFraction_text {ns : Nat} (hns : ns < 1000000000)
    (hz : ∀ c ∈ zone.head?, c.isDigit = false) (hdot : zone.head? ≠ some '.') :
    scanFraction ((fractionText ns).toList ++ zone) = .ok (ns, zone) := by
  unfold fractionText
  split_ifs with h0 h6 h3
  · subst h0
    -- no fraction: the zone follows the seconds
    cases zone with
    | nil => rfl
    | cons c cs =>
      have hc : c ≠ '.' := fun h => hdot (by rw [h]; rfl)
      simp [scanFraction, hc]
  · have hv : ns / 1000000 * 10 ^ (9 - 3) = ns := by simp only [Nat.reducePow, Nat.reduceSub]; omega
    rw [String.toList_append, show ".".toList = ['.'] from rfl, List.singleton_append,
      List.cons_append, scanFraction_padded ⟨by decide, by decide⟩ (by simp only [Nat.reducePow]; omega) hz,
      hv]
  · have hv : ns / 1000 * 10 ^ (9 - 6) = ns := by simp only [Nat.reducePow, Nat.reduceSub]; omega
    rw [String.toList_append, show ".".toList = ['.'] from rfl, List.singleton_append,
      List.cons_append, scanFraction_padded ⟨by decide, by decide⟩ (by simp only [Nat.reducePow]; omega) hz,
      hv]
  · rw [String.toList_append, show ".".toList = ['.'] from rfl, List.singleton_append,
      List.cons_append, scanFraction_padded ⟨by decide, by decide⟩ (by simp only [Nat.reducePow]; omega) hz,
      Nat.sub_self, Nat.pow_zero, Nat.mul_one]

/-- The characters of a timestamp in the years 0 to 9999, with its zone written `zone`. -/
theorem Instant.toList_textWith (t : Instant) (zone : String)
    (hyear : 0 ≤ t.date.year ∧ t.date.year ≤ 9999) :
    (t.textWith zone).toList =
      (padded 4 t.date.year.toNat).toList ++ '-' :: ((padded 2 t.date.month).toList ++ '-' ::
        ((padded 2 t.date.day).toList ++ 'T' :: ((padded 2 (t.secondOfDay / 3600)).toList ++ ':' ::
          ((padded 2 (t.secondOfDay / 60 % 60)).toList ++ ':' ::
            ((padded 2 (t.secondOfDay % 60 + if t.nanos ≥ 1000000000 then 1 else 0)).toList ++
              ((fractionText (if t.nanos ≥ 1000000000 then t.nanos - 1000000000 else t.nanos)).toList ++
                zone.toList)))))) := by
  simp [Instant.textWith, Date.text, yearText, hyear]

/-- The clock fields as written count back to the instant's seconds: a leap second is written as
second 60 and counts as second 59. -/
theorem Instant.seconds_of_fields (t : Instant) :
    t.date.toDays * 86400 + ((t.secondOfDay / 3600 : Nat) : Int) * 3600 +
        ((t.secondOfDay / 60 % 60 : Nat) : Int) * 60 +
        ((if (t.secondOfDay % 60 + if t.nanos ≥ 1000000000 then 1 else 0) = 60 then 59
          else t.secondOfDay % 60 + if t.nanos ≥ 1000000000 then 1 else 0 : Nat) : Int) = t.seconds := by
  have ht := t.showable
  rw [Instant.date, Date.toDays_ofDays]
  unfold Instant.Showable at ht
  unfold Instant.secondOfDay at ht ⊢
  split_ifs <;> omega

/-- The fraction as written, with the leap second's extra second put back, gives the instant's
nanoseconds. -/
theorem Instant.nanos_of_fields (t : Instant) :
    ((if t.nanos ≥ 1000000000 then t.nanos - 1000000000 else t.nanos) +
      if (t.secondOfDay % 60 + if t.nanos ≥ 1000000000 then 1 else 0) = 60 then 1000000000 else 0) =
      t.nanos := by
  have ht := t.showable
  unfold Instant.Showable at ht
  split_ifs <;> omega

/-- A date that exists has a month from 1 to 12 and a day from 1 to 31. -/
theorem Date.range_of_isValid {d : Date} (h : d.isValid = true) :
    1 ≤ d.month ∧ d.month ≤ 12 ∧ 1 ≤ d.day ∧ d.day ≤ 31 := by
  have hdays : daysInMonth d.year d.month ≤ 31 := by
    unfold daysInMonth
    split <;> (try split) <;> omega
  simp only [Date.isValid, decide_eq_true_eq] at h
  omega

/-- An instant written in RFC 3339 form reads back as itself, whatever zone of offset zero
follows it: the reader takes each field back from its digits, counts the date and the clock back
to the seconds, and puts a leap second's extra second back into the nanoseconds. -/
theorem parseStamp_textWith (t : Instant) (hyear : 0 ≤ t.date.year ∧ t.date.year ≤ 9999)
    {zone : String} (hz : ∀ c ∈ zone.toList.head?, c.isDigit = false)
    (hdot : zone.toList.head? ≠ some '.') (hzone : scanZone (skipBlanks zone.toList) = .ok (0, [])) :
    parseStamp (t.textWith zone) = .ok t := by
  -- the fields as written, each in its range
  have ht := t.showable
  have hvalid := Date.range_of_isValid (show t.date.isValid = true from Date.isValid_ofDays _)
  have hsod : t.secondOfDay < 86400 := by
    unfold Instant.secondOfDay
    omega
  have hsec : t.secondOfDay % 60 + (if t.nanos ≥ 1000000000 then 1 else 0) ≤ 60 := by
    unfold Instant.Showable at ht
    split_ifs <;> omega
  have hns : (if t.nanos ≥ 1000000000 then t.nanos - 1000000000 else t.nanos) < 1000000000 := by
    unfold Instant.Showable at ht
    split_ifs <;> omega
  unfold parseStamp
  dsimp only
  rw [Instant.toList_textWith t zone hyear, scanYear_padded (r := '-' :: _) (by omega) (by simp)]
  simp only [bind, Except.bind, literal_cons (show Text.isBlank '-' = false by decide)]
  rw [field_padded (n := t.date.month) (r := '-' :: _) hvalid.1 hvalid.2.1 (by omega) (by simp [Char.isDigit])]
  simp only [literal_cons (show Text.isBlank '-' = false by decide)]
  rw [field_padded (n := t.date.day) (r := 'T' :: _) hvalid.2.2.1 hvalid.2.2.2 (by omega) (by simp [Char.isDigit])]
  simp only [true_or, if_true]
  rw [field_padded (n := t.secondOfDay / 3600) (r := ':' :: _) (Nat.zero_le _) (by omega) (by omega)
    (by simp [Char.isDigit])]
  simp only [literal_cons (show Text.isBlank ':' = false by decide)]
  rw [field_padded (n := t.secondOfDay / 60 % 60) (r := ':' :: _) (Nat.zero_le _) (by omega) (by omega)
    (by simp [Char.isDigit])]
  simp only [literal_cons (show Text.isBlank ':' = false by decide)]
  rw [field_padded (r := (fractionText _).toList ++ zone.toList) (Nat.zero_le _) hsec (by omega)
    (head_fractionText _ hz)]
  have hdate : (⟨(t.date.year.toNat : Int), t.date.month, t.date.day⟩ : Date) = t.date := by
    rw [Int.toNat_of_nonneg hyear.1]
  have hvalid' : t.date.isValid = true := Date.isValid_ofDays _
  simp only [scanFraction_text hns hz hdot, hzone, hdate, hvalid', Int.sub_zero,
    Instant.seconds_of_fields t, Instant.nanos_of_fields t, Instant.ofParts_self]
  -- nothing follows the zone, and the date and the instant lie in the range of years
  have hrange : ¬(t.date.year < yearRange.1 ∨ t.date.year > yearRange.2) := by
    simp only [yearRange]
    omega
  rw [if_neg (by decide), if_neg (by rw [Int.toNat_of_nonneg hyear.1]; simpa using hrange),
    if_neg (by decide), if_neg hrange]

theorem parseStamp_text (t : Instant) (hyear : 0 ≤ t.date.year ∧ t.date.year ≤ 9999) :
    parseStamp t.text = .ok t :=
  parseStamp_textWith t hyear (by simp [show "Z".toList = ['Z'] from rfl, Char.isDigit])
    (by simp [show "Z".toList = ['Z'] from rfl]) rfl

/-! ## 5. The strict form -/

theorem afterDigits_digits {ds : List Char} (hds : ∀ c ∈ ds, c.isDigit = true) (r : List Char) :
    afterDigits ds.length (ds ++ r) = some r := by
  induction ds with
  | nil => rfl
  | cons c cs ih =>
    simp [afterDigits, hds c List.mem_cons_self, ih fun x hx => hds x (List.mem_cons_of_mem _ hx)]

theorem afterDigits_padded {w n : Nat} (hw : 0 < w) (hn : n < 10 ^ w) (r : List Char) :
    afterDigits w ((padded w n).toList ++ r) = some r := by
  have h : afterDigits (padded w n).toList.length ((padded w n).toList ++ r) = some r :=
    afterDigits_digits (fun c hc => isDigit_of_mem_padded hc) r
  rwa [length_padded hw hn] at h

/-- A fraction of digits before a zone leaves the zone to be read. -/
theorem isStrictTail_padded {k v : Nat} (hk : 0 < k) (hv : v < 10 ^ k)
    (hz : ∀ c ∈ zone.head?, c.isDigit = false) :
    isStrictTail ('.' :: ((padded k v).toList ++ zone)) = isStrictZone zone := by
  obtain ⟨c, cs, hcs⟩ := List.exists_cons_of_ne_nil
    (List.ne_nil_of_length_pos (show 0 < (padded k v).toList.length by rw [length_padded hk hv]; exact hk))
  have hdig : ∀ x ∈ c :: cs, x.isDigit = true := fun x hx => isDigit_of_mem_padded (hcs ▸ hx)
  -- the fraction's digits are dropped, and the zone starts with no digit
  have hdrop : zone.dropWhile Char.isDigit = zone := by
    cases zone with
    | nil => rfl
    | cons d ds => simp [hz d rfl]
  rw [hcs, List.cons_append]
  simp only [isStrictTail, hdig c List.mem_cons_self, Bool.true_and]
  rw [List.dropWhile_append_of_pos fun x hx => hdig x (List.mem_cons_of_mem _ hx), hdrop]

/-- The fraction written for nanoseconds under a second, then a zone, is a strict tail when the
zone is a strict one. -/
theorem isStrictTail_fractionText {ns : Nat} (hns : ns < 1000000000)
    (hz : ∀ c ∈ zone.head?, c.isDigit = false) (hdot : zone.head? ≠ some '.') :
    isStrictTail ((fractionText ns).toList ++ zone) = isStrictZone zone := by
  unfold fractionText
  split_ifs with h0 h6 h3
  · -- no fraction: the zone follows the seconds
    cases zone with
    | nil => rfl
    | cons c cs =>
      have hc : c ≠ '.' := fun h => hdot (by rw [h]; rfl)
      simp [isStrictTail, hc]
  all_goals
    rw [String.toList_append, show ".".toList = ['.'] from rfl, List.singleton_append,
      List.cons_append]
    exact isStrictTail_padded (by decide) (by simp only [Nat.reducePow]; omega) hz

/-- The text the log table stores for an instant in the years 0 to 9999 has the strict form. -/
theorem isStrictStamp_textWith (t : Instant) (hyear : 0 ≤ t.date.year ∧ t.date.year ≤ 9999) :
    isStrictStamp (t.textWith "+00:00").toList = true := by
  have ht := t.showable
  have hvalid := Date.range_of_isValid (show t.date.isValid = true from Date.isValid_ofDays _)
  have hsod : t.secondOfDay < 86400 := by
    unfold Instant.secondOfDay
    omega
  have hns : (if t.nanos ≥ 1000000000 then t.nanos - 1000000000 else t.nanos) < 1000000000 := by
    unfold Instant.Showable at ht
    split_ifs <;> omega
  have hsec : t.secondOfDay % 60 + (if t.nanos ≥ 1000000000 then 1 else 0) < 100 := by
    split_ifs <;> omega
  have hzone : "+00:00".toList = ['+', '0', '0', ':', '0', '0'] := rfl
  rw [Instant.toList_textWith t _ hyear]
  simp only [isStrictStamp, Option.bind_eq_bind,
    afterDigits_padded (w := 4) (n := t.date.year.toNat) (by decide) (by omega),
    afterDigits_padded (w := 2) (n := t.date.month) (by decide) (by omega),
    afterDigits_padded (w := 2) (n := t.date.day) (by decide) (by omega),
    afterDigits_padded (w := 2) (n := t.secondOfDay / 3600) (by decide) (by omega),
    afterDigits_padded (w := 2) (n := t.secondOfDay / 60 % 60) (by decide) (by omega),
    afterDigits_padded (w := 2) (by decide) hsec, Option.bind_some, afterChar, if_true]
  rw [isStrictTail_fractionText hns (by simp [hzone, Char.isDigit]) (by simp [hzone]), hzone]
  rfl

/-- The text the log table stores for an instant in the years 0 to 9999 reads back, in the
strict form, as the instant. -/
theorem parseStrictStamp_textWith (t : Instant) (hyear : 0 ≤ t.date.year ∧ t.date.year ≤ 9999) :
    parseStrictStamp (t.textWith "+00:00") = some t := by
  have hzone : "+00:00".toList = ['+', '0', '0', ':', '0', '0'] := rfl
  rw [parseStrictStamp, if_pos (isStrictStamp_textWith t hyear),
    parseStamp_textWith t hyear (by simp [hzone, Char.isDigit]) (by simp [hzone]) (by rw [hzone]; rfl)]
  rfl

end Safekeep.Time
