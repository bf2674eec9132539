import Mathlib.Algebra.Group.Nat.Defs
import QueryTree.Timestamp

/-!
# Points in time read back

A point in time is read from its text: the calendar tells the day from the date that it tells from the
day, and every number is written with as many digits as are read for it. The points in time for which
this holds are those that any text is read as.
-/
namespace QueryTree

namespace Date

/-- The number of days without the leap days among them, for the first days of four centuries. -/
def commonDays (day : Nat) : Nat := day - day / 1460 + day / 36524 - day / 146096

/-- The day with which a year begins, for the first four centuries. -/
def yearStart (year : Nat) : Nat := 365 * year + year / 4 - year / 100 + year / 400

theorem commonDays_yearStart : ∀ year < 400, 365 * year ≤ commonDays (yearStart year) ∧
    commonDays (yearStart (year + 1) - 1) < 365 * (year + 1) := by
  decide +kernel

private theorem yearStart_succ_le : ∀ year < 400, yearStart (year + 1) ≤ yearStart year + 366 := by
  decide +kernel

theorem commonDays_mono {d e : Nat} (h : d ≤ e) (he : e < 146097) : commonDays d ≤ commonDays e := by
  induction h with
  | refl => exact Nat.le_refl _
  | @step e hle ih =>
    have hstep : commonDays e ≤ commonDays (e + 1) := by
      simp only [commonDays]
      omega
    exact Nat.le_trans (ih (by omega)) hstep

/-- Each of the days of four centuries is in the year that its number of common days tells. -/
private theorem year_of_day {day year : Nat} (h : day < 146097)
    (hyear : commonDays day / 365 = year) :
    year < 400 ∧ yearStart year ≤ day ∧ day < yearStart (year + 1) := by
  have hlt : year < 400 := by
    simp only [commonDays] at hyear
    omega
  refine ⟨hlt, ?_, ?_⟩
  · refine Nat.le_of_not_lt fun hday => ?_
    cases year with
    | zero => exact absurd hday (Nat.not_lt_zero day)
    | succ year =>
      have hend := (commonDays_yearStart year (by omega)).2
      have hmono := commonDays_mono (d := day) (e := yearStart (year + 1) - 1) (by omega) (by
        simp only [yearStart]
        omega)
      omega
  · refine Nat.lt_of_not_le fun hday => ?_
    have hlast : year + 1 < 400 := by
      simp only [yearStart] at hday
      omega
    have hstart := (commonDays_yearStart (year + 1) hlast).1
    have hmono := commonDays_mono hday h
    omega

/-- The month of a day, which is the twelfth at most, and the day in it are told from the day of the
year. -/
private theorem month_of_day {day month : Nat} (h : day ≤ 365)
    (hmonth : (5 * day + 2) / 153 = month) : month < 12 ∧ (153 * month + 2) / 5 ≤ day := by
  omega

/-- Four centuries have 97 leap days. -/
theorem leapDays_era (year : Nat) (era : Int) :
    (year + era * 400) / 4 - (year + era * 400) / 100 + (year + era * 400) / 400 =
      (year / 4 - year / 100 + year / 400 + 97 * era : Int) := by
  have hfour : (year + era * 400) / 4 = (year / 4 + 100 * era : Int) := by omega
  have hhundred : (year + era * 400) / 100 = (year / 100 + 4 * era : Int) := by omega
  have hage : (year + era * 400) / 400 = (year / 400 + era : Int) := by omega
  omega

theorem toDays_ofDays (n : Int) : (ofDays n).toDays = n := by
  have hera := Int.emod_add_mul_ediv n 146097
  obtain ⟨day, hday⟩ := Int.eq_ofNat_of_zero_le (Int.emod_nonneg n (b := 146097) (by decide))
  have hlt : day < 146097 := by
    have hbound := Int.emod_lt_of_pos n (b := 146097) (by decide)
    omega
  obtain ⟨hyear, hstart, hend⟩ := year_of_day hlt rfl
  have hlength := yearStart_succ_le _ hyear
  have hdays : (n % 146097).toNat = day := by omega
  simp only [ofDays, toDays, hdays]
  rw [← commonDays]
  generalize commonDays day / 365 = year at *
  have hcentury : year / 400 = 0 := Nat.div_eq_of_lt hyear
  obtain ⟨dayOfYear, rfl⟩ := Nat.exists_eq_add_of_le hstart
  have hrest : yearStart year + dayOfYear - (365 * year + year / 4 - year / 100) = dayOfYear := by
    simp only [yearStart]
    omega
  have hdayOfYear : dayOfYear ≤ 365 := by omega
  obtain ⟨hmonth, hfirst⟩ := month_of_day hdayOfYear rfl
  rw [hrest]
  generalize (5 * dayOfYear + 2) / 153 = month at *
  simp only [yearStart] at hday
  have hleap := leapDays_era year (n / 146097)
  by_cases hyearEnd : month < 10
  · have hcivil : ¬month + 3 ≤ 2 := by omega
    have hback : (month + 3 + 9) % 12 = month := by omega
    simp only [if_pos hyearEnd, if_neg hcivil, hback, Int.add_zero]
    generalize (153 * month + 2) / 5 = first at *
    omega
  · have hcivil : month - 9 ≤ 2 := by omega
    have hback : (month - 9 + 9) % 12 = month := by omega
    simp only [if_neg hyearEnd, if_pos hcivil, hback, Int.add_sub_cancel]
    generalize (153 * month + 2) / 5 = first at *
    omega

example : ofDays 739250 = ⟨2024, 2, 29⟩ ∧ toDays ⟨2024, 2, 29⟩ = 739250 := by decide

end Date

namespace Timestamp

section

variable {width n : Nat}

theorem isDigit_padded : ∀ c ∈ padded width n, c.isDigit = true := by
  have hdigits : ∀ c ∈ Nat.toDigits 10 n, c.isDigit = true := fun c hc =>
    Nat.isDigit_of_mem_toDigits (by decide) (by decide) hc
  refine List.forall_mem_append.mpr ⟨fun c hc => ?_, hdigits⟩
  rw [List.eq_of_mem_replicate hc]
  rfl

theorem length_padded (hwidth : 0 < width) (h : n < 10 ^ width) : (padded width n).length = width := by
  have hlength := (Nat.length_toDigits_le_iff (by decide) hwidth).mpr h
  simp only [padded, List.length_append, List.length_replicate]
  omega

theorem exists_padded (width n : Nat) : ∃ d ds, padded width n = d :: ds ∧ d.isDigit = true := by
  have hdigits : ∀ c ∈ padded width n, c.isDigit = true := isDigit_padded
  cases h : padded width n with
  | nil => exact absurd (List.append_eq_nil_iff.mp h).2 Nat.toDigits_ne_nil
  | cons d ds => exact ⟨d, ds, rfl, hdigits d (h ▸ List.mem_cons_self)⟩

private theorem foldl_padded :
    (padded width n).foldl (fun n c => n * 10 + (c.toNat - '0'.toNat)) 0 = n := by
  have hfold (cs : List Char) : cs.foldl (fun n c => n * 10 + (c.toNat - '0'.toNat)) 0 =
      Nat.ofDigitChars 10 cs 0 := by
    simp only [Nat.ofDigitChars_eq_foldl, Nat.mul_comm]
  rw [hfold, padded, Nat.ofDigitChars_append, Nat.ofDigitChars_replicate_zero, Nat.mul_zero,
    Nat.ofDigitChars_ten_toDigits]

/-- A padded number is read up to its end, if it fills the width or no digit follows it. -/
theorem digits?_padded {limit : Nat} {rest : List Char} (hlimit : (padded width n).length ≤ limit)
    (hrest : (padded width n).length = limit ∨ ∀ c ∈ rest.head?, c.isDigit = false) :
    digits? limit (padded width n ++ rest) = some (n, rest) := by
  have htake : ((padded width n ++ rest).take limit).takeWhile Char.isDigit = padded width n := by
    have hnone : (rest.take (limit - (padded width n).length)).takeWhile Char.isDigit = [] := by
      rcases hrest with hfull | hrest
      · rw [hfull, Nat.sub_self]
        rfl
      · cases rest with
        | nil => simp
        | cons c rest =>
          have hc : c.isDigit = false := hrest c rfl
          cases limit - (padded width n).length <;> simp [hc]
    rw [List.take_append, List.take_of_length_le hlimit, List.takeWhile_append_of_pos isDigit_padded,
      hnone, List.append_nil]
  rw [digits?, htake]
  split
  next hnil =>
    obtain ⟨d, ds, h, -⟩ := exists_padded width n
    exact nomatch hnil.symm.trans h
  next =>
    rw [foldl_padded, List.drop_left]

private theorem isBlank_of_isDigit {c : Char} (h : c.isDigit = true) :
    Unicode.isBlank c = false := by
  obtain ⟨hfirst, hlast⟩ : 48 ≤ c.toNat ∧ c.toNat ≤ 57 := Char.isDigit_iff_toNat.mp h
  simp [Unicode.isBlank, Unicode.Ranges.holds, Unicode.blankRanges]
  omega

theorem skipBlanks_padded (rest : List Char) :
    skipBlanks (padded width n ++ rest) = padded width n ++ rest := by
  obtain ⟨d, ds, h, hd⟩ := exists_padded width n
  rw [h, List.cons_append, skipBlanks, List.dropWhile_cons, isBlank_of_isDigit hd]
  rfl

theorem number?_padded (h : n < 100) (rest : List Char) :
    number? 2 (padded 2 n ++ rest) = some (n, rest) := by
  have hlength : (padded 2 n).length = 2 := length_padded (by decide) h
  rw [number?, skipBlanks_padded]
  exact digits?_padded (Nat.le_of_eq hlength) (.inl hlength)

end

private theorem literal?_hyphen (rest : List Char) : literal? '-' ('-' :: rest) = some rest := rfl

private theorem literal?_colon (rest : List Char) : literal? ':' (':' :: rest) = some rest := rfl

private theorem year?_unsigned {n : Nat} (h : n < 10000) (rest : List Char) :
    year? (padded 4 n ++ rest) = some ((n : Int), rest) := by
  have hlength : (padded 4 n).length = 4 := length_padded (by decide) h
  have hdigits : digits? 4 (padded 4 n ++ rest) = some (n, rest) :=
    digits?_padded (Nat.le_of_eq hlength) (.inl hlength)
  obtain ⟨d, ds, hpadded, hd⟩ := exists_padded 4 n
  rw [year?, skipBlanks_padded, hpadded, List.cons_append]
  rw [hpadded, List.cons_append] at hdigits
  split
  next heq =>
    obtain ⟨rfl, -⟩ := List.cons.inj heq
    exact absurd hd (by decide)
  next heq =>
    obtain ⟨rfl, -⟩ := List.cons.inj heq
    exact absurd hd (by decide)
  next => rw [hdigits, Option.map_some]

section

variable {rest : List Char} (h : ∀ c ∈ rest.head?, c.isDigit = false)
include h

private theorem year?_minus (width n : Nat) :
    year? ('-' :: (padded width n ++ rest)) = some (-(n : Int), rest) := by
  show (digits? (padded width n ++ rest).length (padded width n ++ rest)).map _ = _
  rw [digits?_padded (by simp) (.inr h), Option.map_some]

private theorem year?_plus (width n : Nat) :
    year? ('+' :: (padded width n ++ rest)) = some ((n : Int), rest) := by
  show (digits? (padded width n ++ rest).length (padded width n ++ rest)).map _ = _
  rw [digits?_padded (by simp) (.inr h), Option.map_some]

private theorem year?_yearText (year : Int) :
    year? (yearText year ++ rest) = some (year, rest) := by
  unfold yearText
  split
  next hyear =>
    have habs : (year.natAbs : Int) = year := by omega
    rw [year?_unsigned (by omega), habs]
  next hyear =>
    rw [List.cons_append]
    split
    next hneg =>
      have habs : -(year.natAbs : Int) = year := by omega
      rw [year?_minus h, habs]
    next hpos =>
      have habs : (year.natAbs : Int) = year := by omega
      rw [year?_plus h, habs]

end

/-- The places after the point are as many as the number is padded to. -/
private theorem fraction?_places {places n : Nat} {rest : List Char}
    (hplaces : 0 < places ∧ places ≤ 9)
    (hn : n < 10 ^ places) (h : ∀ c ∈ rest.head?, c.isDigit = false) :
    fraction? ('.' :: (padded places n ++ rest)) = some (n * Nat.pow 10 (9 - places), rest) := by
  have hlength : (padded places n).length = places := length_padded hplaces.1 hn
  have hdigits : digits? 9 (padded places n ++ rest) = some (n, rest) :=
    digits?_padded (Nat.le_trans (Nat.le_of_eq hlength) hplaces.2) (.inr h)
  have hdrop : rest.dropWhile Char.isDigit = rest := by
    cases rest with
    | nil => rfl
    | cons c rest => rw [List.dropWhile_cons, h c rfl]; rfl
  have hcount : (padded places n ++ rest).length - rest.length = places := by
    rw [List.length_append, Nat.add_sub_cancel, hlength]
  rw [fraction?, hdigits, Option.map_some]
  show some (n * Nat.pow 10 (9 - ((padded places n ++ rest).length - rest.length)), _) = _
  rw [hcount, hdrop]

private theorem fraction?_fractionText {n : Nat} (hn : n < 1000000000) {rest : List Char}
    (h : ∀ c ∈ rest.head?, c.isDigit = false ∧ c ≠ '.') :
    fraction? (fractionText n ++ rest) = some (n, rest) := by
  have hdigit : ∀ c ∈ rest.head?, c.isDigit = false := fun c hc => (h c hc).1
  have hplaces {places m : Nat} (hp : 0 < places ∧ places ≤ 9) (hm : m < 10 ^ places)
      (hvalue : m * Nat.pow 10 (9 - places) = n) :
      fraction? ('.' :: (padded places m ++ rest)) = some (n, rest) :=
    hvalue ▸ fraction?_places hp hm hdigit
  unfold fractionText
  split
  next hzero =>
    subst hzero
    cases rest with
    | nil => rfl
    | cons c rest =>
      have hpoint : c ≠ '.' := (h c rfl).2
      simp [fraction?, hpoint]
  split
  next hthree =>
    have hvalue : n / 1000000 * 1000000 = n := by omega
    exact hplaces (by decide) (by omega) hvalue
  split
  next hsix =>
    have hvalue : n / 1000 * 1000 = n := by omega
    exact hplaces (by decide) (by omega) hvalue
  · exact hplaces (by decide) hn (Nat.mul_one n)

/-- A point in time that has a text of its own: its day is in the calendar, and a second that goes on
as a leap second is the last of its minute. -/
structure IsProper (t : Timestamp) : Prop where
  date : (Date.ofDays t.days).isValid = true
  leap : 1000000000 ≤ t.nanosecond.val → t.second.val % 60 = 59

instance (t : Timestamp) : Decidable t.IsProper :=
  decidable_of_iff ((Date.ofDays t.days).isValid = true ∧
    (1000000000 ≤ t.nanosecond.val → t.second.val % 60 = 59))
    ⟨fun h => ⟨h.1, h.2⟩, fun h => ⟨h.date, h.leap⟩⟩

/-- The parts of a second and of a day are put together again. -/
private theorem ofLocal?_ofDays {t : Timestamp} (h : t.IsProper) :
    ofLocal? (Date.ofDays t.days) (t.second.val / 3600) (t.second.val / 60 % 60)
      (t.second.val % 60 + t.nanosecond.val / 1000000000) (t.nanosecond.val % 1000000000) 0 =
      some t := by
  obtain ⟨days, ⟨second, hsecond⟩, ⟨nanosecond, hnanosecond⟩⟩ := t
  obtain ⟨hdate, hlast⟩ := h
  simp only at hdate hlast
  have hleap : (if second % 60 + nanosecond / 1000000000 = 60 then 1 else 0) =
      nanosecond / 1000000000 := by
    split <;> omega
  have htotal : second / 3600 * 3600 + second / 60 % 60 * 60 +
      (second % 60 + nanosecond / 1000000000 - nanosecond / 1000000000) = second := by omega
  have hdays : days + ((second : Int) - 0) / 86400 = days := by omega
  have hsecondOfDay : (((second : Int) - 0) % 86400).toNat = second := by omega
  have hnanoseconds : nanosecond % 1000000000 + nanosecond / 1000000000 * 1000000000 =
      nanosecond := by omega
  have hclock : second / 3600 < 24 ∧ second / 60 % 60 < 60 ∧
      second % 60 + nanosecond / 1000000000 ≤ 60 := by omega
  simp only [ofLocal?, Date.toDays_ofDays, hleap, htotal, hdays, hsecondOfDay, hnanoseconds]
  simp [hsecond, hnanosecond, hdate, hclock]

private theorem date_lt {d : Date} (h : d.isValid = true) : d.month < 100 ∧ d.day < 100 := by
  simp only [Date.isValid, Bool.and_eq_true, decide_eq_true_eq] at h
  have hlength : Date.monthLength d.year d.month ≤ 31 := by
    unfold Date.monthLength
    split <;> split <;> decide
  omega

private theorem separator?_mark (rest : List Char) : separator? ('T' :: rest) = some rest := rfl

/-- Every proper point in time is read back from its text. -/
theorem read?_textWith {t : Timestamp} (h : t.IsProper) : read? (t.textWith "Z") = some t := by
  obtain ⟨hmonth, hday⟩ := date_lt h.date
  have hsecond := t.second.isLt
  have hnanosecond := t.nanosecond.isLt
  have hhyphen (rest : List Char) : ∀ c ∈ ('-' :: rest).head?, c.isDigit = false := by
    rintro c hc
    obtain rfl := Option.some.inj hc
    decide
  have hoffset : ∀ c ∈ ['Z'].head?, c.isDigit = false ∧ c ≠ '.' := by
    rintro c hc
    obtain rfl := Option.some.inj hc
    decide
  have hfraction : fraction? (fractionText (t.nanosecond.val % 1000000000) ++ ['Z']) =
      some (t.nanosecond.val % 1000000000, ['Z']) :=
    fraction?_fractionText (Nat.mod_lt _ (by decide)) hoffset
  have hmark : offset? (skipBlanks ['Z']) = some (0, []) := by decide
  have hhour : t.second.val / 3600 < 100 := by omega
  have hminute : t.second.val / 60 % 60 < 100 := by omega
  have hleap : t.second.val % 60 + t.nanosecond.val / 1000000000 < 100 := by omega
  rw [read?, textWith, String.toList_ofList]
  simp only [List.append_assoc, List.cons_append]
  rw [year?_yearText (hhyphen _)]
  simp only [Option.bind_eq_bind, Option.bind_some, literal?_hyphen, number?_padded hmonth,
    number?_padded hday, separator?_mark, number?_padded hhour, literal?_colon,
    number?_padded hminute, number?_padded hleap]
  show (fraction? (fractionText (t.nanosecond.val % 1000000000) ++ ['Z'])).bind _ = _
  rw [hfraction]
  simp only [Option.bind_some, hmark]
  exact ofLocal?_ofDays h

/-- The leap second at the end of the year 2016. -/
example : read? "2016-12-31T23:59:60Z" =
    some ⟨Date.toDays ⟨2016, 12, 31⟩, ⟨86399, by decide⟩, ⟨1000000000, by decide⟩⟩ := by
  decide +kernel

/-- A number has no more places than there are digits. -/
private theorem foldl_digits_lt {ds : List Char} (h : ∀ c ∈ ds, c.isDigit = true) {n places : Nat}
    (hn : n < 10 ^ places) :
    ds.foldl (fun n c => n * 10 + (c.toNat - '0'.toNat)) n < 10 ^ (places + ds.length) := by
  induction ds generalizing n places with
  | nil => exact hn
  | cons c ds ih =>
    obtain ⟨hc, hds⟩ := List.forall_mem_cons.mp h
    obtain ⟨-, hlast⟩ : 48 ≤ c.toNat ∧ c.toNat ≤ 57 := Char.isDigit_iff_toNat.mp hc
    have hzero : '0'.toNat = 48 := rfl
    have hstep : n * 10 + (c.toNat - '0'.toNat) < 10 ^ (places + 1) := by
      rw [Nat.pow_succ]
      omega
    rw [List.foldl_cons, List.length_cons, ← Nat.add_assoc, Nat.add_right_comm]
    exact ih hds hstep

private theorem digits?_lt {width n : Nat} {cs rest : List Char}
    (h : digits? width cs = some (n, rest)) :
    cs.length - rest.length ≤ width ∧ n < 10 ^ (cs.length - rest.length) := by
  have hdigits : ∀ c ∈ (cs.take width).takeWhile Char.isDigit, c.isDigit = true := fun c hc =>
    List.all_eq_true.mp List.all_takeWhile c hc
  have hlength : ((cs.take width).takeWhile Char.isDigit).length ≤ min width cs.length :=
    List.length_take ▸ (List.takeWhile_sublist _).length_le
  have hnothing : 0 < 10 ^ 0 := by decide
  have hlt := foldl_digits_lt hdigits hnothing
  rw [digits?] at h
  generalize (cs.take width).takeWhile Char.isDigit = ds at *
  split at h
  next => exact nomatch h
  next =>
    obtain ⟨rfl, rfl⟩ := Prod.mk.inj (Option.some.inj h)
    have hcount : cs.length - (cs.drop ds.length).length = ds.length := by
      rw [List.length_drop]
      omega
    rw [hcount]
    exact ⟨by omega, by simpa using hlt⟩

private theorem fraction?_lt {n : Nat} {cs rest : List Char} (h : fraction? cs = some (n, rest)) :
    n < 1000000000 := by
  unfold fraction? at h
  split at h
  next cs =>
    obtain ⟨⟨m, rest'⟩, hm, heq⟩ := Option.map_eq_some_iff.mp h
    obtain ⟨rfl, -⟩ := Prod.mk.inj heq
    obtain ⟨hplaces, hlt⟩ := digits?_lt hm
    generalize cs.length - rest'.length = places at *
    calc m * 10 ^ (9 - places) < 10 ^ places * 10 ^ (9 - places) :=
          Nat.mul_lt_mul_of_pos_right hlt (Nat.pow_pos (by decide))
      _ = 1000000000 := by rw [← Nat.pow_add, Nat.add_sub_cancel' hplaces]
  next =>
    obtain ⟨rfl, -⟩ := Prod.mk.inj (Option.some.inj h)
    decide

private theorem offset?_emod {o : Int} {cs rest : List Char} (h : offset? cs = some (o, rest)) :
    o % 60 = 0 := by
  unfold offset? at h
  dsimp only at h
  repeat' split at h
  all_goals cases h
  all_goals omega

private theorem isProper_of_ofLocal? {date : Date} {hour minute second nanosecond : Nat}
    {offset : Int}
    {t : Timestamp} (hnanosecond : nanosecond < 1000000000) (hoffset : offset % 60 = 0)
    (h : ofLocal? date hour minute second nanosecond offset = some t) : t.IsProper := by
  simp only [ofLocal?, Option.dite_none_right_eq_some, Option.ite_none_right_eq_some,
    Option.some.injEq, Bool.and_eq_true, decide_eq_true_eq] at h
  obtain ⟨hbounds, ⟨-, hdate⟩, rfl⟩ := h
  refine ⟨hdate, fun hleap => ?_⟩
  have hsixty : second = 60 := by
    simp only at hleap
    split at hleap
    next hsixty => exact hsixty
    next => omega
  subst hsixty
  show (((hour * 3600 + minute * 60 + 59 : Nat) - offset : Int) % 86400).toNat % 60 = 59
  omega

theorem isProper_of_read? {s : String} {t : Timestamp} (h : read? s = some t) : t.IsProper := by
  simp only [read?, Option.bind_eq_bind, Option.bind_eq_some_iff, Option.ite_none_right_eq_some] at h
  -- Of all that is read, the fraction and the offset have to fit.
  obtain ⟨_, _, _, _, _, _, _, _, _, _, _, _, _, _, _, _, _, _, _, _, _, _, ⟨nanosecond, _⟩,
    hnanosecond, ⟨offset, _⟩, hoffset, _, hlocal⟩ := h
  exact isProper_of_ofLocal? (fraction?_lt hnanosecond) (offset?_emod hoffset) hlocal

/-- The proper points in time are those that a text is read as. -/
theorem isProper_iff {t : Timestamp} : t.IsProper ↔ ∃ s, read? s = some t :=
  ⟨fun h => ⟨t.textWith "Z", read?_textWith h⟩, fun ⟨_, h⟩ => isProper_of_read? h⟩

end Timestamp

end QueryTree
