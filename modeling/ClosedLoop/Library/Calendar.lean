import ClosedLoop.Library.FloatText

namespace ClosedLoop.Library.Calendar

/-- The days of a year before each month, and the days of each month, when the year is no leap year. -/
def daysBeforeMonth : List Int := [0, 0, 31, 59, 90, 120, 151, 181, 212, 243, 273, 304, 334]

def daysInMonth : List Int := [0, 31, 28, 31, 30, 31, 30, 31, 31, 30, 31, 30, 31]

def preceding (leap : Bool) (month : Nat) : Int :=
  daysBeforeMonth.getD month 0 + if 2 < month ∧ leap = true then 1 else 0

/-- The month and the day of a day of the year, which is counted from zero. -/
def monthDay (leap : Bool) (yearDay : Nat) : Nat × Nat :=
  let guess := (yearDay + 50) / 32
  let before := preceding leap guess
  if (yearDay : Int) < before then
    let month := guess - 1
    let shorter := before - (daysInMonth.getD month 0 + if month = 2 ∧ leap = true then 1 else 0)
    (month, (yearDay - shorter).toNat + 1)
  else (guess, (yearDay - before).toNat + 1)

/-- The year, the month, and the day of an ordinal. The first day of the year one has the ordinal one. -/
def dateOfOrdinal (ordinal : Int) : Int × Nat × Nat :=
  let n400 := (ordinal - 1) / 146097
  let in400 := (ordinal - 1) % 146097
  let n100 := in400 / 36524
  let in100 := in400 % 36524
  let n4 := in100 / 1461
  let in4 := in100 % 1461
  let n1 := in4 / 365
  let yearDay := in4 % 365
  let year := n400 * 400 + 1 + n100 * 100 + n4 * 4 + n1
  if n1 = 4 ∨ n100 = 4 then (year - 1, 12, 31)
  else (year, monthDay (n1 = 3 ∧ (n4 ≠ 24 ∨ n100 = 3)) yearDay.toNat)

def isLeap (year : Int) : Bool := year % 4 = 0 ∧ (year % 100 ≠ 0 ∨ year % 400 = 0)

/-- The ordinal of a date. -/
def ordinalOfDate (date : Int × Nat × Nat) : Int :=
  let before := date.1 - 1
  before * 365 + before / 4 - before / 100 + before / 400 + preceding (isLeap date.1) date.2.1 + date.2.2

/-- The last digits of a number. -/
def lastDigits : Nat → Nat → List Char
  | 0, _ => []
  | width + 1, number => lastDigits width (number / 10) ++ [Nat.digitChar (number % 10)]

/-- A year has four digits, and more only outside of the years that a datetime holds. -/
def yearChars (year : Int) : List Char :=
  (if year / 10000 = 0 then [] else intChars (year / 10000)) ++ lastDigits 4 (year % 10000).toNat

/-- `isoformat(timespec="milliseconds")` of a UTC time, with `Z` for its offset. -/
def isoformat (milliseconds : Int) : List Char :=
  let date := dateOfOrdinal (milliseconds / 86400000 + 719163)
  let time := (milliseconds % 86400000).toNat
  yearChars date.1 ++ ('-' :: lastDigits 2 date.2.1 ++ '-' :: lastDigits 2 date.2.2 ++
    'T' :: lastDigits 2 (time / 3600000) ++ ':' :: lastDigits 2 (time / 60000 % 60) ++
    ':' :: lastDigits 2 (time / 1000 % 60) ++ '.' :: lastDigits 3 (time % 1000) ++ ['Z'])

section Dates

/-- Month and day give back the day of the year. -/
theorem monthDay_round (leap : Bool) {yearDay : Nat} (inside : yearDay < if leap then 366 else 365) :
    preceding leap (monthDay leap yearDay).1 + (monthDay leap yearDay).2 = yearDay + 1 ∧
      (monthDay leap yearDay).1 < 100 ∧ (monthDay leap yearDay).2 < 100 := by
  have all : ∀ day : Fin 366, preceding true (monthDay true day).1 + (monthDay true day).2 = day + 1 ∧
      (monthDay true day).1 < 100 ∧ (monthDay true day).2 < 100 := by decide +kernel
  have common : ∀ day : Fin 365, preceding false (monthDay false day).1 + (monthDay false day).2 = day + 1 ∧
      (monthDay false day).1 < 100 ∧ (monthDay false day).2 < 100 := by decide +kernel
  cases leap with
  | true => exact all ⟨yearDay, by simpa using inside⟩
  | false => exact common ⟨yearDay, by simpa using inside⟩

/-- The days before a year that is written in cycles of 400, 100, and 4 years. -/
theorem daysBefore (n400 : Int) {n100 n4 n1 : Int} (century : 0 ≤ n100 ∧ n100 < 4) (quad : 0 ≤ n4 ∧ n4 < 25)
    (single : 0 ≤ n1 ∧ n1 < 4) :
    (n400 * 400 + n100 * 100 + n4 * 4 + n1) * 365 + (n400 * 400 + n100 * 100 + n4 * 4 + n1) / 4 -
      (n400 * 400 + n100 * 100 + n4 * 4 + n1) / 100 + (n400 * 400 + n100 * 100 + n4 * 4 + n1) / 400 =
      146097 * n400 + 36524 * n100 + 1461 * n4 + 365 * n1 := by
  omega

/-- A year is a leap year by its place in the cycles of the calendar. -/
theorem isLeap_cycles (n400 : Int) {n100 n4 n1 : Int} (century : 0 ≤ n100 ∧ n100 < 4) (quad : 0 ≤ n4 ∧ n4 < 25)
    (single : 0 ≤ n1 ∧ n1 < 4) :
    isLeap (n400 * 400 + 1 + n100 * 100 + n4 * 4 + n1) = decide (n1 = 3 ∧ (n4 ≠ 24 ∨ n100 = 3)) := by
  unfold isLeap
  rw [decide_eq_decide]
  omega

/-- A date gives its ordinal back. -/
theorem ordinalOfDate_dateOfOrdinal (ordinal : Int) : ordinalOfDate (dateOfOrdinal ordinal) = ordinal := by
  unfold dateOfOrdinal
  dsimp only
  generalize cycles : (ordinal - 1) / 146097 = n400
  generalize in400Is : (ordinal - 1) % 146097 = in400
  generalize centuries : in400 / 36524 = n100
  generalize in100Is : in400 % 36524 = in100
  generalize quads : in100 / 1461 = n4
  generalize in4Is : in100 % 1461 = in4
  generalize singles : in4 / 365 = n1
  generalize yearDayIs : in4 % 365 = yearDay
  have whole : ordinal = 146097 * n400 + 36524 * n100 + 1461 * n4 + 365 * n1 + yearDay + 1 := by omega
  have days : 0 ≤ yearDay ∧ yearDay < 365 := by omega
  have quad : 0 ≤ n4 ∧ n4 < 25 := by omega
  split
  · -- The last day of a leap year would begin a fifth year or a fifth century.
    rename_i last
    unfold ordinalOfDate
    dsimp only
    have leap : isLeap (n400 * 400 + 1 + n100 * 100 + n4 * 4 + n1 - 1) = true := by
      unfold isLeap
      rw [decide_eq_true_eq]
      omega
    rw [leap, show preceding true 12 = 335 from rfl]
    rcases last with fifthYear | fifthCentury
    · have before := daysBefore n400 (show 0 ≤ n100 ∧ n100 < 4 by omega) quad (show 0 ≤ (3 : Int) ∧ (3 : Int) < 4 by decide)
      rw [show n400 * 400 + 1 + n100 * 100 + n4 * 4 + n1 - 1 - 1 = n400 * 400 + n100 * 100 + n4 * 4 + 3 by omega, before]
      omega
    · have before := daysBefore n400 (show 0 ≤ (3 : Int) ∧ (3 : Int) < 4 by decide)
        (show 0 ≤ (24 : Int) ∧ (24 : Int) < 25 by decide) (show 0 ≤ (3 : Int) ∧ (3 : Int) < 4 by decide)
      rw [show n400 * 400 + 1 + n100 * 100 + n4 * 4 + n1 - 1 - 1 = n400 * 400 + 3 * 100 + 24 * 4 + 3 by omega, before]
      omega
  · rename_i usual
    have century : 0 ≤ n100 ∧ n100 < 4 := by omega
    have single : 0 ≤ n1 ∧ n1 < 4 := by omega
    have before := daysBefore n400 century quad single
    have leap := isLeap_cycles n400 century quad single
    have inside : yearDay.toNat < if decide (n1 = 3 ∧ (n4 ≠ 24 ∨ n100 = 3)) = true then 366 else 365 := by
      split <;> omega
    obtain ⟨round, -⟩ := monthDay_round _ inside
    unfold ordinalOfDate
    dsimp only
    rw [leap, show n400 * 400 + 1 + n100 * 100 + n4 * 4 + n1 - 1 = n400 * 400 + n100 * 100 + n4 * 4 + n1 by omega,
      before]
    omega

/-- Month and day have two digits. -/
theorem dateOfOrdinal_bounds (ordinal : Int) :
    (dateOfOrdinal ordinal).2.1 < 100 ∧ (dateOfOrdinal ordinal).2.2 < 100 := by
  unfold dateOfOrdinal
  dsimp only
  split
  · exact ⟨show 12 < 100 by decide, show 31 < 100 by decide⟩
  · refine (monthDay_round _ ?_).2
    split <;> omega

end Dates

section Texts

theorem digitChar_injective {first second : Nat} (small : first < 10) (alsoSmall : second < 10)
    (same : Nat.digitChar first = Nat.digitChar second) : first = second := by
  have all : ∀ first second : Fin 10, Nat.digitChar first = Nat.digitChar second → first = second := by decide
  exact congrArg Fin.val (all ⟨first, small⟩ ⟨second, alsoSmall⟩ same)

theorem length_lastDigits (width number : Nat) : (lastDigits width number).length = width := by
  induction width generalizing number with
  | zero => rfl
  | succ width ih => simp [lastDigits, ih]

/-- Equal digits belong to numbers that differ in higher digits only. -/
theorem lastDigits_unique {width first second : Nat} (same : lastDigits width first = lastDigits width second) :
    first % 10 ^ width = second % 10 ^ width := by
  induction width generalizing first second with
  | zero => simp [Nat.mod_one]
  | succ width ih =>
      obtain ⟨fronts, lasts⟩ := List.append_inj' same rfl
      have digits := digitChar_injective (Nat.mod_lt _ (by decide)) (Nat.mod_lt _ (by decide))
        (List.singleton_inj.mp lasts)
      rw [Nat.pow_succ', Nat.mod_mul, Nat.mod_mul, digits, ih fronts]

/-- Years that are written alike are equal. -/
theorem yearChars_injective {first second : Int} (same : yearChars first = yearChars second) : first = second := by
  obtain ⟨fronts, lasts⟩ := List.append_inj' same (by rw [length_lastDigits, length_lastDigits])
  have low := lastDigits_unique lasts
  have high : first / 10000 = second / 10000 := by
    split at fronts <;> split at fronts
    · omega
    · exact absurd fronts.symm (intChars_ne_nil _)
    · exact absurd fronts (intChars_ne_nil _)
    · exact intChars_injective fronts
  omega

/-- A block of digits before a mark can be read off. -/
theorem block_unique {width first second : Nat} {mark other : Char} {rest last : List Char}
    (same : lastDigits width first ++ mark :: rest = lastDigits width second ++ other :: last) :
    first % 10 ^ width = second % 10 ^ width ∧ rest = last := by
  obtain ⟨digits, tails⟩ := List.append_inj same (by rw [length_lastDigits, length_lastDigits])
  exact ⟨lastDigits_unique digits, (List.cons.inj tails).2⟩

/-- The digits of a date determine its ordinal. -/
theorem ordinal_unique {first second : Int}
    (years : yearChars (dateOfOrdinal first).1 = yearChars (dateOfOrdinal second).1)
    (months : (dateOfOrdinal first).2.1 % 10 ^ 2 = (dateOfOrdinal second).2.1 % 10 ^ 2)
    (days : (dateOfOrdinal first).2.2 % 10 ^ 2 = (dateOfOrdinal second).2.2 % 10 ^ 2) : first = second := by
  simp only [Nat.reducePow] at months days
  have dates : dateOfOrdinal first = dateOfOrdinal second := by
    obtain ⟨month, day⟩ := dateOfOrdinal_bounds first
    obtain ⟨otherMonth, otherDay⟩ := dateOfOrdinal_bounds second
    refine Prod.ext (yearChars_injective years) (Prod.ext ?_ ?_)
    · rwa [Nat.mod_eq_of_lt month, Nat.mod_eq_of_lt otherMonth] at months
    · rwa [Nat.mod_eq_of_lt day, Nat.mod_eq_of_lt otherDay] at days
  have ordinals := congrArg ordinalOfDate dates
  rwa [ordinalOfDate_dateOfOrdinal, ordinalOfDate_dateOfOrdinal] at ordinals

theorem lastDigits_digits (width number : Nat) : ∀ char ∈ lastDigits width number, char.isDigit = true := by
  induction width generalizing number with
  | zero => simp [lastDigits]
  | succ width ih =>
      intro char member
      rcases List.mem_append.mp member with front | last
      · exact ih _ char front
      · have all : ∀ digit : Fin 10, (Nat.digitChar digit).isDigit = true := by decide
        rw [List.mem_singleton.mp last]
        exact all ⟨number % 10, Nat.mod_lt _ (by decide)⟩

/-- A year is written with digits and a sign. -/
theorem mem_yearChars {year : Int} {char : Char} (member : char ∈ yearChars year) : char = '-' ∨ char.isDigit = true := by
  rcases List.mem_append.mp member with front | last
  · split at front
    · cases front
    · exact mem_intChars front
  · exact Or.inr (lastDigits_digits _ _ char last)

/-- The digits of a time of the day determine it. -/
theorem clock_unique {first second : Nat} (inside : first < 86400000) (alsoInside : second < 86400000)
    (hours : first / 3600000 % 10 ^ 2 = second / 3600000 % 10 ^ 2)
    (minutes : first / 60000 % 60 % 10 ^ 2 = second / 60000 % 60 % 10 ^ 2)
    (seconds : first / 1000 % 60 % 10 ^ 2 = second / 1000 % 60 % 10 ^ 2)
    (parts : first % 1000 % 10 ^ 3 = second % 1000 % 10 ^ 3) : first = second := by
  simp only [Nat.reducePow] at hours minutes seconds parts
  omega

/-- Different times have different texts. -/
theorem isoformat_injective {first second : Int} (same : isoformat first = isoformat second) : first = second := by
  unfold isoformat at same
  dsimp only at same
  obtain ⟨years, rests⟩ := List.append_inj' same (by simp [length_lastDigits])
  simp only [List.cons_append, List.append_assoc, List.cons.injEq, true_and] at rests
  obtain ⟨months, rests⟩ := block_unique rests
  obtain ⟨days, rests⟩ := block_unique rests
  obtain ⟨hours, rests⟩ := block_unique rests
  obtain ⟨minutes, rests⟩ := block_unique rests
  obtain ⟨seconds, rests⟩ := block_unique rests
  obtain ⟨parts, -⟩ := block_unique rests
  have ordinals := ordinal_unique years months days
  have clocks := clock_unique (by omega) (by omega) hours minutes seconds parts
  clear same years rests months days hours minutes seconds parts
  omega

end Texts

end ClosedLoop.Library.Calendar
