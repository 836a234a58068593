import ClosedLoop.Library.FloatText
import ClosedLoop.Library.IpNetwork
import Mathlib.Tactic.IntervalCases

namespace ClosedLoop.Library.IPAddress

/-- A digit is read back. -/
theorem digitValue_digitChar (digit : Fin 16) : digitValue (digitChar digit) = some digit := by
  revert digit
  decide

theorem digitChar_zero_iff (digit : Fin 16) : digitChar digit = '0' ↔ digit = 0 := by
  revert digit
  decide

/-- A printed digit is none of the separators of an address. -/
theorem digitChar_ne_separator (digit : Fin 16) :
    digitChar digit ≠ '.' ∧ digitChar digit ≠ ':' ∧ digitChar digit ≠ '%' ∧ digitChar digit ≠ '/' := by
  revert digit
  decide

/-- The value of a digit list, most significant digit first. -/
def digitsValue (base : Nat) (digits : List (Fin 16)) : Nat :=
  digits.foldl (fun value digit => value * base + digit.val) 0

/-- Digits below the base are read back as a number. -/
theorem readDigits_map (base : Nat) (digits : List (Fin 16)) (small : ∀ digit ∈ digits, digit.val < base) :
    readDigits base (digits.map digitChar) = some (digitsValue base digits) := by
  unfold readDigits digitsValue
  generalize 0 = start
  induction digits generalizing start with
  | nil => rfl
  | cons digit rest ih =>
      have head : digit.val < base := small digit List.mem_cons_self
      have tail := ih (fun other member => small other (List.mem_cons_of_mem _ member))
      simp only [List.map_cons, List.foldlM_cons, digitValue_digitChar, Option.bind_eq_bind,
        Option.bind_some, if_pos head, List.foldl_cons]
      exact tail _

/-- Leading zeros do not count. -/
theorem digitsValue_dropWhile (base : Nat) (digits : List (Fin 16)) :
    digitsValue base (digits.dropWhile (· = 0)) = digitsValue base digits := by
  induction digits with
  | nil => rfl
  | cons digit rest ih =>
      by_cases zero : digit = 0
      · subst zero
        rw [List.dropWhile_cons_of_pos (by simp), ih]
        simp [digitsValue]
      · rw [List.dropWhile_cons_of_neg (by simpa using zero)]

/-- Printing drops leading zeros only, so the value survives. -/
theorem readDigits_printDigits (base : Nat) (positive : 0 < base) (digits : List (Fin 16))
    (small : ∀ digit ∈ digits, digit.val < base) :
    readDigits base (printDigits digits) = some (digitsValue base digits) := by
  unfold printDigits
  rw [← digitsValue_dropWhile]
  split
  · rename_i empty
    rw [empty]
    have zero := readDigits_map base [0] (by simpa using positive)
    simpa [digitsValue, digitChar] using zero
  · rename_i first rest kept
    rw [kept]
    apply readDigits_map
    intro digit member
    apply small
    exact (List.dropWhile_sublist _).subset (kept ▸ member)

theorem printDigits_ne_nil (digits : List (Fin 16)) : printDigits digits ≠ [] := by
  unfold printDigits
  split <;> simp

theorem printDigits_length (digits : List (Fin 16)) (some : digits ≠ []) :
    (printDigits digits).length ≤ digits.length := by
  unfold printDigits
  split
  · exact List.length_pos_iff.mpr some
  · rename_i first rest kept
    rw [List.length_map, ← kept]
    exact (List.dropWhile_sublist _).length_le

/-- A number of several digits has no leading zero. -/
theorem printDigits_head (digits : List (Fin 16)) (several : printDigits digits ≠ ['0']) :
    (printDigits digits).head? ≠ some '0' := by
  unfold printDigits at several ⊢
  split
  · rename_i empty
    rw [empty] at several
    exact absurd rfl several
  · rename_i first rest kept
    have nonzero := List.head_dropWhile_not (fun digit : Fin 16 => decide (digit = 0)) (by rw [kept]; simp)
    simp only [kept, List.head_cons] at nonzero
    simp only [List.map_cons, List.head?_cons, ne_eq, Option.some.injEq, digitChar_zero_iff]
    simpa using nonzero

theorem mem_printDigits {digits : List (Fin 16)} {char : Char} (member : char ∈ printDigits digits) :
    ∃ digit, char = digitChar digit := by
  unfold printDigits at member
  split at member
  · exact ⟨0, by simpa [digitChar] using member⟩
  · obtain ⟨digit, _, same⟩ := List.mem_map.mp member
    exact ⟨digit, same.symm⟩

/-- An octet is read back. -/
theorem parseOctet_printOctet (octet : Fin 256) : parseOctet (printOctet octet) = some octet := by
  have bound := octet.isLt
  have read := readDigits_printDigits 10 (by decide) [Fin.ofNat 16 (octet.val / 100),
    Fin.ofNat 16 (octet.val / 10 % 10), Fin.ofNat 16 (octet.val % 10)] (by
      intro digit member
      simp only [List.mem_cons, List.not_mem_nil, or_false] at member
      rcases member with same | same | same <;> subst same <;> simp only [Fin.ofNat_eq_cast, Fin.val_natCast] <;> omega)
  have value : digitsValue 10 [Fin.ofNat 16 (octet.val / 100), Fin.ofNat 16 (octet.val / 10 % 10),
      Fin.ofNat 16 (octet.val % 10)] = octet.val := by
    simp only [digitsValue, List.foldl_cons, List.foldl_nil, Fin.ofNat_eq_cast, Fin.val_natCast]
    omega
  have short : (printOctet octet).length ≤ 3 := printDigits_length _ (by simp)
  have shape : ¬ (printOctet octet = [] ∨ 3 < (printOctet octet).length ∨
      (printOctet octet ≠ ['0'] ∧ (printOctet octet).head? = some '0')) := by
    rintro (empty | long | ⟨several, head⟩)
    · exact printDigits_ne_nil _ empty
    · omega
    · exact printDigits_head _ several head
  change readDigits 10 (printOctet octet) = _ at read
  rw [value] at read
  simp [parseOctet, shape, read]

/-- A group of an IPv6 address is read back. -/
theorem parseHextet_printHextet (hextet : Fin 65536) : parseHextet (printHextet hextet) = some hextet := by
  have bound := hextet.isLt
  have read := readDigits_printDigits 16 (by decide) [Fin.ofNat 16 (hextet.val / 4096),
    Fin.ofNat 16 (hextet.val / 256), Fin.ofNat 16 (hextet.val / 16), Fin.ofNat 16 hextet.val]
    (fun digit _ => digit.isLt)
  have value : digitsValue 16 [Fin.ofNat 16 (hextet.val / 4096), Fin.ofNat 16 (hextet.val / 256),
      Fin.ofNat 16 (hextet.val / 16), Fin.ofNat 16 hextet.val] = hextet.val := by
    simp only [digitsValue, List.foldl_cons, List.foldl_nil, Fin.ofNat_eq_cast, Fin.val_natCast]
    omega
  have short : (printHextet hextet).length ≤ 4 := printDigits_length _ (by simp)
  have shape : ¬ (printHextet hextet = [] ∨ 4 < (printHextet hextet).length) := by
    rintro (empty | long)
    · exact printDigits_ne_nil _ empty
    · omega
  change readDigits 16 (printHextet hextet) = _ at read
  rw [value] at read
  simp [parseHextet, shape, read]

theorem mapM_parseHextet (hextets : List (Fin 65536)) :
    (hextets.map printHextet).mapM parseHextet = some hextets := by
  induction hextets with
  | nil => rfl
  | cons hextet rest ih => simp [parseHextet_printHextet, ih]

theorem printHextet_ne_nil (hextet : Fin 65536) : printHextet hextet ≠ [] := printDigits_ne_nil _

/-- A group holds no separator. -/
theorem mem_printHextet {hextet : Fin 65536} {char : Char} (member : char ∈ printHextet hextet) :
    char ≠ '.' ∧ char ≠ ':' ∧ char ≠ '%' ∧ char ≠ '/' := by
  obtain ⟨digit, same⟩ := mem_printDigits member
  exact same ▸ digitChar_ne_separator digit

theorem mem_printOctet {octet : Fin 256} {char : Char} (member : char ∈ printOctet octet) :
    char ≠ '.' ∧ char ≠ ':' ∧ char ≠ '%' ∧ char ≠ '/' := by
  obtain ⟨digit, same⟩ := mem_printDigits member
  exact same ▸ digitChar_ne_separator digit

/-- An IPv4 address is read back. -/
theorem parseV4_printV4 (address : IPv4Address) : parseV4 (printV4 address) = some address := by
  unfold parseV4 printV4
  rw [List.splitOn_intercalate '.' (by
    intro part member dot
    simp only [List.mem_cons, List.not_mem_nil, or_false] at member
    rcases member with same | same | same | same <;> subst same <;> exact (mem_printOctet dot).1 rfl) (by simp)]
  simp [parseOctet_printOctet]

/-- The parts around the empty part print the hextets before and after the skipped zeros. -/
theorem expandParts_skip (front back : List (Fin 65536)) (room : front.length + back.length < 8) :
    expandParts ((if front = [] then [[]] else front.map printHextet) ++ [[]] ++
      (if back = [] then [[]] else back.map printHextet)) =
      some (front ++ List.replicate (8 - (front.length + back.length)) 0 ++ back) := by
  obtain ⟨head, lead, leadEq, leadFull, leadHead, leadLength⟩ : ∃ head lead,
      (if front = [] then [[]] else front.map printHextet) = head :: lead ∧ (∀ part ∈ lead, part ≠ []) ∧
        (head = [] ↔ front = []) ∧ lead.length + 1 = max 1 front.length := by
    cases front with
    | nil => exact ⟨[], [], by simp⟩
    | cons hextet rest =>
        refine ⟨printHextet hextet, rest.map printHextet, by simp, ?_, ?_, ?_⟩
        · intro part member
          obtain ⟨other, _, same⟩ := List.mem_map.mp member
          exact same ▸ printHextet_ne_nil other
        · simp [printHextet_ne_nil]
        · simp
  obtain ⟨trail, last, trailEq, trailFull, trailLast, trailLength⟩ : ∃ trail last,
      (if back = [] then [[]] else back.map printHextet) = trail ++ [last] ∧ (∀ part ∈ trail, part ≠ []) ∧
        (last = [] ↔ back = []) ∧ trail.length + 1 = max 1 back.length := by
    rcases List.eq_nil_or_concat back with empty | ⟨rest, hextet, split⟩
    · exact ⟨[], [], by simp [empty]⟩
    · refine ⟨rest.map printHextet, printHextet hextet, by simp [split], ?_, ?_, ?_⟩
      · intro part member
        obtain ⟨other, _, same⟩ := List.mem_map.mp member
        exact same ▸ printHextet_ne_nil other
      · simp [split, printHextet_ne_nil]
      · simp [split]
  have middle : (head :: lead ++ [[]] ++ (trail ++ [last])).tail.dropLast = lead ++ [[]] ++ trail := by
    rw [← List.append_assoc, List.cons_append, List.cons_append, List.cons_append, List.tail_cons,
      List.dropLast_concat]
  have once : (lead ++ [[]] ++ trail).countP (· = []) = 1 := by
    have left : lead.countP (· = []) = 0 := List.countP_eq_zero.mpr fun part member => by simpa using leadFull part member
    have right : trail.countP (· = []) = 0 := List.countP_eq_zero.mpr fun part member => by simpa using trailFull part member
    simp [left, right]
  have place : (lead ++ [[]] ++ trail).findIdx? (· = []) = some lead.length := by
    have left : lead.findIdx? (fun part => decide (part = [])) = none := by
      rw [List.findIdx?_eq_none_iff]
      intro part member
      simpa using leadFull part member
    simp [left, List.findIdx?_cons]
  have total : (head :: lead ++ [[]] ++ (trail ++ [last])).length = lead.length + 1 + 1 + (trail.length + 1) := by
    simp
    omega
  have headIs : (head :: lead ++ [[]] ++ (trail ++ [last])).head? = some [] ↔ front = [] := by
    rw [← leadHead]
    simp
  have lastIs : (head :: lead ++ [[]] ++ (trail ++ [last])).getLast? = some [] ↔ back = [] := by
    rw [← trailLast, ← List.append_assoc, List.getLast?_concat]
    simp
  have high : (if (head :: lead ++ [[]] ++ (trail ++ [last])).head? = some [] then lead.length + 1 - 1
      else lead.length + 1) = front.length := by
    by_cases empty : front = []
    · subst empty
      rw [if_pos (headIs.mpr rfl)]
      simpa using leadLength
    · rw [if_neg (fun same => empty (headIs.mp same))]
      have positive := List.length_pos_iff.mpr empty
      omega
  have low : (if (head :: lead ++ [[]] ++ (trail ++ [last])).getLast? = some [] then trail.length + 1 - 1
      else trail.length + 1) = back.length := by
    by_cases empty : back = []
    · subst empty
      rw [if_pos (lastIs.mpr rfl)]
      simpa using trailLength
    · rw [if_neg (fun same => empty (lastIs.mp same))]
      have positive := List.length_pos_iff.mpr empty
      omega
  have after : lead.length + 1 + 1 + (trail.length + 1) - (lead.length + 1) - 1 = trail.length + 1 := by omega
  have taken : (head :: lead ++ [[]] ++ (trail ++ [last])).take front.length = front.map printHextet := by
    rw [← leadEq]
    by_cases empty : front = []
    · simp [empty]
    · rw [if_neg empty, List.append_assoc]
      exact List.take_left' (by simp)
  have dropped : (head :: lead ++ [[]] ++ (trail ++ [last])).drop
      (lead.length + 1 + 1 + (trail.length + 1) - back.length) = back.map printHextet := by
    by_cases empty : back = []
    · subst empty
      simp only [List.length_nil, Nat.sub_zero, List.map_nil]
      exact List.drop_eq_nil_of_le (by omega)
    · rw [← trailEq, if_neg empty]
      have positive := List.length_pos_iff.mpr empty
      refine List.drop_left' ?_
      simp only [List.length_append, List.length_cons, List.length_nil]
      omega
  rw [leadEq, trailEq]
  unfold expandParts
  simp only [middle, once, place, total, after, high, low, Nat.lt_irrefl, if_false]
  rw [if_neg (by
      rintro ⟨same, nonzero⟩
      exact nonzero (by simp [headIs.mp same])), if_neg (by
      rintro ⟨same, nonzero⟩
      exact nonzero (by simp [lastIs.mp same])), if_neg (by omega), taken, dropped, mapM_parseHextet,
    mapM_parseHextet]
  rfl

/-- Eight groups need no expansion. -/
theorem expandParts_full (hextets : List (Fin 65536)) (complete : hextets.length = 8) :
    expandParts (hextets.map printHextet) = some hextets := by
  have full : ∀ part ∈ (hextets.map printHextet).tail.dropLast, part ≠ [] := by
    intro part member
    have inside := List.mem_of_mem_tail ((List.dropLast_sublist _).subset member)
    obtain ⟨hextet, _, same⟩ := List.mem_map.mp inside
    exact same ▸ printHextet_ne_nil hextet
  have none : (hextets.map printHextet).tail.dropLast.findIdx? (fun part => decide (part = [])) = none := by
    rw [List.findIdx?_eq_none_iff]
    intro part member
    simpa using full part member
  have count : (hextets.map printHextet).tail.dropLast.countP (· = []) = 0 :=
    List.countP_eq_zero.mpr fun part member => by simpa using full part member
  unfold expandParts
  simp only [none, count]
  rw [if_neg (by omega), if_neg (by simp [complete]), mapM_parseHextet]

/-- The run that the scan returns covers only zeros of the list. -/
def ZeroRun (hextets : List (Fin 65536)) (start length : Nat) : Prop :=
  start + length ≤ hextets.length ∧ ∀ place, start ≤ place → place < start + length → hextets[place]? = some 0

/-- The longest run of zeros is a run of zeros. -/
theorem bestRun_zero (all hextets : List (Fin 65536)) (index start length bestStart bestLength : Nat)
    (rest : all.drop index = hextets) (inside : index ≤ all.length)
    (current : length = 0 ∨ (start + length = index ∧ ZeroRun all start length))
    (best : ZeroRun all bestStart bestLength) :
    ZeroRun all (bestRun hextets index start length bestStart bestLength).1
      (bestRun hextets index start length bestStart bestLength).2 := by
  induction hextets generalizing index start length bestStart bestLength with
  | nil => exact best
  | cons hextet tail ih =>
      have within : index < all.length := by
        by_contra outside
        rw [List.drop_eq_nil_of_le (by omega)] at rest
        cases rest
      have here : all[index]? = some hextet := by
        have read := congrArg (fun list => list[0]?) rest
        simpa using read
      have next : all.drop (index + 1) = tail := by
        rw [← List.tail_drop, rest, List.tail_cons]
      unfold bestRun
      split
      · rename_i zero
        subst zero
        have grown : ZeroRun all (if length = 0 then index else start) (length + 1) ∧
            (if length = 0 then index else start) + (length + 1) = index + 1 := by
          rcases current with empty | ⟨place, ended, zeros⟩
          · subst empty
            refine ⟨⟨by simp; omega, ?_⟩, by simp⟩
            intro place lower upper
            simp only [if_true] at lower upper
            rw [show place = index by omega]
            exact here
          · by_cases empty : length = 0
            · subst empty
              refine ⟨⟨by simp; omega, ?_⟩, by simp⟩
              intro other lower upper
              simp only [if_true] at lower upper
              rw [show other = index by omega]
              exact here
            · rw [if_neg empty]
              refine ⟨⟨by omega, ?_⟩, by omega⟩
              intro other lower upper
              by_cases old : other < start + length
              · exact zeros other lower old
              · rw [show other = index by omega]
                exact here
        simp only
        by_cases longer : bestLength < length + 1
        · rw [if_pos longer]
          exact ih (index + 1) _ _ _ _ next (by omega) (Or.inr ⟨grown.2, grown.1⟩) grown.1
        · rw [if_neg longer]
          exact ih (index + 1) _ _ _ _ next (by omega) (Or.inr ⟨grown.2, grown.1⟩) best
      · exact ih (index + 1) _ _ _ _ next (by omega) (Or.inl rfl) best

/-- A list is its front, its run of zeros, and its back. -/
theorem ZeroRun.split {hextets : List (Fin 65536)} {start length : Nat} (run : ZeroRun hextets start length) :
    hextets = hextets.take start ++ List.replicate length 0 ++ hextets.drop (start + length) := by
  obtain ⟨inside, zeros⟩ := run
  have middle : (hextets.drop start).take length = List.replicate length 0 := by
    apply List.ext_getElem?
    intro place
    rw [List.getElem?_take, List.getElem?_drop, List.getElem?_replicate]
    split
    · exact zeros (start + place) (by omega) (by omega)
    · rfl
  calc hextets = hextets.take start ++ hextets.drop start := (List.take_append_drop start hextets).symm
    _ = hextets.take start ++ ((hextets.drop start).take length ++ (hextets.drop start).drop length) := by
        rw [List.take_append_drop length]
    _ = _ := by rw [middle, List.drop_drop, List.append_assoc]

/-- Compressed groups expand to themselves. -/
theorem expandParts_compressHextets (hextets : List (Fin 65536)) (complete : hextets.length = 8) :
    expandParts (compressHextets hextets) = some hextets := by
  have zeros := bestRun_zero hextets hextets 0 0 0 0 0 rfl (by omega) (Or.inl rfl) ⟨by omega, by omega⟩
  unfold compressHextets
  simp only
  generalize bestRun hextets 0 0 0 0 0 = run at zeros ⊢
  split
  · rename_i long
    have split := zeros.split
    have bound := zeros.1
    have frontLength : (hextets.take run.1).length = run.1 := List.length_take_of_le (by omega)
    have backLength : (hextets.drop (run.1 + run.2)).length = 8 - (run.1 + run.2) := by simp [complete]
    have skipped := expandParts_skip (hextets.take run.1) (hextets.drop (run.1 + run.2)) (by omega)
    have frontIs : hextets.take run.1 = [] ↔ run.1 = 0 := by
      rw [← List.length_eq_zero_iff, frontLength]
    have backIs : hextets.drop (run.1 + run.2) = [] ↔ run.1 + run.2 = hextets.length := by
      rw [← List.length_eq_zero_iff, backLength]
      omega
    simp only [frontIs, backIs, List.map_take, List.map_drop, frontLength, backLength] at skipped
    rw [skipped, show 8 - (run.1 + (8 - (run.1 + run.2))) = run.2 by omega, ← split]
  · exact expandParts_full hextets complete

/-- The printed parts number three to nine and hold no separator. -/
theorem compressHextets_shape (hextets : List (Fin 65536)) (complete : hextets.length = 8) :
    3 ≤ (compressHextets hextets).length ∧ (compressHextets hextets).length ≤ 9 ∧
      ∀ part ∈ compressHextets hextets, ∀ char ∈ part, char ≠ '.' ∧ char ≠ ':' ∧ char ≠ '%' ∧ char ≠ '/' := by
  have zeros := bestRun_zero hextets hextets 0 0 0 0 0 rfl (by omega) (Or.inl rfl) ⟨by omega, by omega⟩
  have printed : ∀ part ∈ hextets.map printHextet, ∀ char ∈ part,
      char ≠ '.' ∧ char ≠ ':' ∧ char ≠ '%' ∧ char ≠ '/' := by
    intro part member char inside
    obtain ⟨hextet, _, same⟩ := List.mem_map.mp member
    exact mem_printHextet (same ▸ inside)
  unfold compressHextets
  simp only
  generalize bestRun hextets 0 0 0 0 0 = run at zeros ⊢
  have bound := zeros.1
  split
  · refine ⟨?_, ?_, ?_⟩
    · split <;> split <;> simp [complete] <;> omega
    · split <;> split <;> simp [complete] <;> omega
    · intro part member char inside
      simp only [List.mem_append, List.mem_cons, List.not_mem_nil, or_false] at member
      rcases member with (front | empty) | back
      · split at front
        · simp_all
        · exact printed part (List.mem_of_mem_take front) char inside
      · simp [empty] at inside
      · split at back
        · simp_all
        · exact printed part (List.mem_of_mem_drop back) char inside
  · exact ⟨by simp [complete], by simp [complete], printed⟩

/-- Without an embedded IPv4 address the parts stay. -/
theorem expandSuffix_plain (parts : List (List Char)) (plain : ∀ part ∈ parts, '.' ∉ part) :
    expandSuffix parts = some parts := by
  unfold expandSuffix
  split
  · rename_i last found
    rw [if_neg (plain last (List.mem_of_getLast? found))]
  · rfl

/-- Printed groups are read back. -/
theorem parseHextets_print (hextets : List (Fin 65536)) (complete : hextets.length = 8) :
    parseHextets (List.intercalate [':'] (compressHextets hextets)) = some hextets := by
  obtain ⟨lower, upper, plain⟩ := compressHextets_shape hextets complete
  have split := List.splitOn_intercalate ':' (fun part member colon => (plain part member ':' colon).2.1 rfl)
    (fun empty => by simp [empty] at lower)
  have suffix := expandSuffix_plain (compressHextets hextets)
    (fun part member dot => (plain part member '.' dot).1 rfl)
  unfold parseHextets
  simp only [split, suffix]
  simp [show ¬ (compressHextets hextets).length < 3 by omega, show ¬ 9 < (compressHextets hextets).length by omega,
    expandParts_compressHextets hextets complete]

/-- The characters of a joined text come from its parts or from the separator. -/
theorem mem_intercalate {separator char : Char} {parts : List (List Char)}
    (member : char ∈ List.intercalate [separator] parts) : char = separator ∨ ∃ part ∈ parts, char ∈ part := by
  induction parts with
  | nil => simp [List.intercalate] at member
  | cons part rest ih =>
      cases rest with
      | nil => exact Or.inr ⟨part, List.mem_cons_self, by simpa [List.intercalate] using member⟩
      | cons other later =>
          rw [List.intercalate_cons_cons] at member
          simp only [List.mem_append, List.mem_cons, List.not_mem_nil, or_false] at member
          rcases member with (inside | same) | tail
          · exact Or.inr ⟨part, List.mem_cons_self, inside⟩
          · exact Or.inl same
          · rcases ih tail with same | ⟨found, present, inside⟩
            · exact Or.inl same
            · exact Or.inr ⟨found, List.mem_cons_of_mem _ present, inside⟩

theorem colon_mem_print (hextets : List (Fin 65536)) (complete : hextets.length = 8) :
    ':' ∈ List.intercalate [':'] (compressHextets hextets) := by
  obtain ⟨lower, _, _⟩ := compressHextets_shape hextets complete
  match shape : compressHextets hextets, lower with
  | first :: second :: rest, _ =>
      rw [List.intercalate_cons_cons]
      simp

/-- Printed groups hold neither a zone nor a prefix mark. -/
theorem print_separator (hextets : List (Fin 65536)) (complete : hextets.length = 8) :
    '%' ∉ List.intercalate [':'] (compressHextets hextets) ∧
      '/' ∉ List.intercalate [':'] (compressHextets hextets) := by
  obtain ⟨_, _, plain⟩ := compressHextets_shape hextets complete
  constructor
  · intro member
    rcases mem_intercalate member with same | ⟨part, present, inside⟩
    · exact absurd same (by decide)
    · exact (plain part present '%' inside).2.2.1 rfl
  · intro member
    rcases mem_intercalate member with same | ⟨part, present, inside⟩
    · exact absurd same (by decide)
    · exact (plain part present '/' inside).2.2.2 rfl

/-- An IPv6 address is read back. -/
theorem parseV6_printV6 (address : IPv6Address) : parseV6 (printV6 address) = some address := by
  obtain ⟨hextets, complete, scopeId⟩ := address
  obtain ⟨percent, slash⟩ := print_separator hextets complete
  have parsed := parseHextets_print hextets complete
  cases scopeId with
  | none =>
      have scope : splitScope (List.intercalate [':'] (compressHextets hextets)) =
          some (List.intercalate [':'] (compressHextets hextets), none) := by
        unfold splitScope
        rw [List.splitOn_eq_singleton percent]
      simp [parseV6, printV6, slash, scope, parsed, complete]
  | some scope =>
      obtain ⟨zone, present, plain⟩ := scope
      have split : splitScope (List.intercalate [':'] (compressHextets hextets) ++ '%' :: zone) =
          some (List.intercalate [':'] (compressHextets hextets), some zone) := by
        unfold splitScope
        rw [List.splitOn_append_cons_self_of_not_mem percent, List.splitOn_eq_singleton plain.1]
        simp [present]
      have clean : '/' ∉ List.intercalate [':'] (compressHextets hextets) ++ '%' :: zone := by
        simp only [List.mem_append, List.mem_cons, not_or]
        exact ⟨slash, by decide, plain.2⟩
      simp [parseV6, printV6, clean, split, parsed, complete, present, plain]

theorem readDigits_plain {base : Nat} {text : List Char} {value : Nat} (read : readDigits base text = some value)
    {char : Char} (member : char ∈ text) : digitValue char ≠ none := by
  unfold readDigits at read
  generalize 0 = start at read
  induction text generalizing start with
  | nil => simp at member
  | cons head rest ih =>
      simp only [List.foldlM_cons, Option.bind_eq_bind] at read
      obtain ⟨next, step, later⟩ := Option.bind_eq_some_iff.mp read
      rcases List.mem_cons.mp member with same | inside
      · intro unknown
        rw [← same, unknown] at step
        cases step
      · exact ih inside next later

/-- An IPv4 text holds digits and dots only. -/
theorem parseV4_colon (text : List Char) (member : ':' ∈ text) : parseV4 text = none := by
  have joined : List.intercalate ['.'] (text.splitOn '.') = text := List.intercalate_splitOn '.'
  rw [← joined] at member
  have octet (part : List Char) (inside : ':' ∈ part) : parseOctet part = none := by
    unfold parseOctet
    have unread : readDigits 10 part = none := by
      rcases read : readDigits 10 part with _ | value
      · rfl
      · exact absurd (by decide) (readDigits_plain read inside)
    rw [unread]
    split <;> rfl
  unfold parseV4
  rcases mem_intercalate member with same | ⟨part, present, inside⟩
  · exact absurd same (by decide)
  · split
    · rename_i first second third fourth shape
      rw [shape] at present
      simp only [List.mem_cons, List.not_mem_nil, or_false] at present
      have failed := octet part inside
      rcases present with same | same | same | same <;> subst same <;> simp [failed]
    · rfl

/-- An address of either kind is read back. -/
theorem ofChars_toChars (address : IPAddress) : ofChars address.toChars = some address := by
  cases address with
  | v4 address => simp [ofChars, toChars, parseV4_printV4]
  | v6 address =>
      have colon : ':' ∈ printV6 address := by
        unfold printV6
        have inside := colon_mem_print address.hextets address.complete
        split
        · exact inside
        · exact List.mem_append_left _ inside
      simp [ofChars, toChars, parseV4_colon _ colon, parseV6_printV6]

/-- The printed text of an address parses to that address. -/
theorem parse_print (address : IPAddress) : parse (print address) = some address := by
  simp [parse, print, ofChars_toChars]

/-- Different addresses have different texts. -/
theorem print_injective {first second : IPAddress} (same : print first = print second) : first = second := by
  have read := congrArg parse same
  rw [parse_print, parse_print] at read
  exact Option.some.inj read

/-- An address holds no prefix mark. -/
theorem slash_not_mem_toChars (address : IPAddress) : '/' ∉ address.toChars := by
  cases address with
  | v4 address =>
      intro member
      rcases mem_intercalate member with same | ⟨part, present, inside⟩
      · exact absurd same (by decide)
      · simp only [List.mem_cons, List.not_mem_nil, or_false] at present
        rcases present with same | same | same | same <;> subst same <;> exact (mem_printOctet inside).2.2.2 rfl
  | v6 address =>
      intro member
      have parsed := parseV6_printV6 address
      unfold parseV6 at parsed
      rw [if_pos (show '/' ∈ printV6 address from member)] at parsed
      cases parsed

/-- Different networks have different texts. -/
theorem network_print_injective {first second : IPNetwork} (same : first.print = second.print) : first = second := by
  have digits : '/' ∉ Nat.toDigits 10 first.prefixLength := fun member =>
    absurd (Nat.isDigit_of_mem_toDigits (by decide) (by decide) member) (by decide)
  obtain ⟨addresses, -, lengths⟩ := (List.append_cons_inj_of_notMem (slash_not_mem_toChars _) digits).mp
    (String.ofList_injective same)
  obtain ⟨address, length⟩ := first
  obtain ⟨otherAddress, otherLength⟩ := second
  have sameAddress : address = otherAddress := print_injective (by rw [print, print]; exact congrArg _ addresses)
  have sameLength : length = otherLength := toDigits_injective lengths
  rw [sameAddress, sameLength]

/-- The canonical spelling is its own canonical spelling. -/
theorem canonical_idempotent {text spelling : String} (spelled : canonical text = some spelling) :
    canonical spelling = some spelling := by
  obtain ⟨address, _, same⟩ := Option.map_eq_some_iff.mp spelled
  rw [← same, canonical, parse_print, Option.map_some]

end ClosedLoop.Library.IPAddress
