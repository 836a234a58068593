import Mathlib.Data.List.Sort

namespace ClosedLoop.Library.Cursor

variable {δ κ : Type} [LinearOrder κ] (key : δ → κ)

/-- A document is beyond a cursor when its key is greater. Without a cursor every document is. -/
def Beyond : Option κ → δ → Prop
  | none, _ => True
  | some place, document => place < key document

instance (cursor : Option κ) (document : δ) : Decidable (Beyond key cursor document) :=
  match cursor with
  | none => inferInstanceAs (Decidable True)
  | some place => inferInstanceAs (Decidable (place < key document))

/-- The wanted documents beyond a cursor in the order of their keys. -/
def ahead (wanted : δ → Bool) (documents : List δ) (cursor : Option κ) : List δ :=
  (documents.filter fun document => wanted document && decide (Beyond key cursor document)).insertionSort
    fun first second => key first ≤ key second

/-- One search reads the first documents ahead of its cursor. -/
def page (wanted : δ → Bool) (documents : List δ) (cursor : Option κ) (size : Nat) : List δ :=
  (ahead key wanted documents cursor).take size

/-- The cursor moves to the last document that was read. -/
def advance (cursor : Option κ) (read : List δ) : Option κ := (read.getLast?.map key).or cursor

/-- No wanted document is left behind the cursor without being handled. -/
def Covered (wanted : δ → Bool) (handled : δ → Prop) (documents : List δ) (cursor : Option κ) : Prop :=
  ∀ document ∈ documents, wanted document = true → ¬ Beyond key cursor document → handled document

/-- Different wanted documents have different keys. -/
def Distinct (wanted : δ → Bool) (documents : List δ) : Prop :=
  ∀ first ∈ documents, ∀ second ∈ documents, wanted first = true → wanted second = true →
    key first = key second → first = second

section Sources

variable {key} {α : Type} (source : α → δ)

/-- A document whose key is the key of its source is beyond a cursor when its source is. -/
theorem beyond_source (cursor : Option κ) (document : α) :
    Beyond (fun document => key (source document)) cursor document ↔ Beyond key cursor (source document) := by
  cases cursor <;> rfl

omit [LinearOrder κ] in
/-- A cursor over documents is one over their sources. -/
theorem advance_source (cursor : Option κ) (read : List α) :
    advance (fun document => key (source document)) cursor read = advance key cursor (read.map source) := by
  rw [advance, advance, List.getLast?_map, Option.map_map]
  rfl

end Sources

section Pages

variable {key} {wanted : δ → Bool} {documents read : List δ} {cursor : Option κ} {size : Nat} {document : δ}

/-- A document is ahead when it is wanted and lies beyond the cursor. -/
theorem mem_ahead : document ∈ ahead key wanted documents cursor ↔
    document ∈ documents ∧ wanted document = true ∧ Beyond key cursor document := by
  rw [ahead, List.mem_insertionSort, List.mem_filter]
  simp

/-- Documents ahead are in the order of their keys. -/
theorem ahead_sorted (key : δ → κ) (wanted : δ → Bool) (documents : List δ) (cursor : Option κ) :
    (ahead key wanted documents cursor).Pairwise fun first second => key first ≤ key second := by
  have : Std.Total fun first second : δ => key first ≤ key second := ⟨fun first second => le_total _ _⟩
  have : IsTrans δ fun first second => key first ≤ key second := ⟨fun _ _ _ => le_trans⟩
  exact List.pairwise_insertionSort _ _

/-- A page holds documents ahead. -/
theorem mem_of_mem_page (member : document ∈ page key wanted documents cursor size) :
    document ∈ documents ∧ wanted document = true ∧ Beyond key cursor document :=
  mem_ahead.mp (List.mem_of_mem_take member)

/-- A page that is not full holds all that is ahead. -/
theorem page_complete (short : (page key wanted documents cursor size).length < size) :
    page key wanted documents cursor size = ahead key wanted documents cursor := by
  rw [page, List.length_take] at short
  exact List.take_of_length_le (by omega)

/-- The documents that were read come before all other documents ahead. -/
theorem le_of_not_read (taken : read <+: page key wanted documents cursor size) {last : δ} (inside : last ∈ read)
    (listed : document ∈ ahead key wanted documents cursor) (other : document ∉ read) : key last ≤ key document := by
  obtain ⟨rest, whole⟩ := taken.trans (List.take_prefix _ _)
  have sorted := ahead_sorted key wanted documents cursor
  rw [← whole] at listed sorted
  have later : document ∈ rest := (List.mem_append.mp listed).resolve_left other
  exact (List.pairwise_append.mp sorted).2.2 last inside document later

/-- The cursor never moves back. -/
theorem beyond_of_advance (taken : read <+: page key wanted documents cursor size)
    (beyond : Beyond key (advance key cursor read) document) : Beyond key cursor document := by
  rcases List.eq_nil_or_concat read with rfl | ⟨front, last, rfl⟩
  · exact beyond
  · have passed : Beyond key cursor last := (mem_of_mem_page (taken.subset (by simp))).2.2
    have after : key last < key document := by simpa [Beyond, advance] using beyond
    cases cursor with
    | none => trivial
    | some place => exact lt_trans passed after

end Pages

section Walks

variable {key} {wanted : δ → Bool} {documents : List δ}

/-- The wanted documents have pairwise different keys. -/
def Separate (key : δ → κ) (wanted : δ → Bool) (documents : List δ) : Prop :=
  ((documents.filter wanted).map key).Nodup

/-- Separate documents ahead have different keys. -/
theorem ahead_strict (separate : Separate key wanted documents) (cursor : Option κ) :
    (ahead key wanted documents cursor).Pairwise fun first second => key first < key second := by
  have fewer : (documents.filter fun document => wanted document && decide (Beyond key cursor document)).Sublist
      (documents.filter wanted) := List.monotone_filter_right _ fun document met => (Bool.and_eq_true_iff.mp met).1
  have keys : ((ahead key wanted documents cursor).map key).Nodup :=
    ((List.perm_insertionSort _ _).map key).nodup_iff.mpr (separate.sublist (fewer.map key))
  have different := List.pairwise_map.mp keys
  exact ((ahead_sorted key wanted documents cursor).and different).imp fun ⟨before, apart⟩ => lt_of_le_of_ne before apart

/-- After some documents the others are ahead of the last that was read. -/
theorem ahead_advance (separate : Separate key wanted documents) (cursor : Option κ) (count : Nat) :
    ahead key wanted documents (advance key cursor ((ahead key wanted documents cursor).take count)) =
      (ahead key wanted documents cursor).drop count := by
  have whole := List.take_append_drop count (ahead key wanted documents cursor)
  have strict := ahead_strict separate cursor
  rcases List.eq_nil_or_concat ((ahead key wanted documents cursor).take count) with none | ⟨front, last, read⟩
  · rw [none] at whole ⊢
    exact whole.symm
  · rw [List.concat_eq_append] at read
    rw [read] at whole ⊢
    rw [← whole] at strict
    obtain ⟨before, after, between⟩ := List.pairwise_append.mp strict
    have place : advance key cursor (front ++ [last]) = some (key last) := by simp [advance]
    have distinct : ∀ {found : List δ}, (found.Pairwise fun first second => key first < key second) → found.Nodup := by
      intro found ordered
      refine List.Pairwise.imp (fun {first second} lower => ?_) ordered
      rintro rfl
      exact lt_irrefl _ lower
    have members : ∀ document, document ∈ ahead key wanted documents (some (key last)) ↔
        document ∈ (ahead key wanted documents cursor).drop count := by
      intro document
      have listed : document ∈ ahead key wanted documents cursor ↔
          document ∈ documents ∧ wanted document = true ∧ Beyond key cursor document := mem_ahead
      rw [← whole, List.mem_append] at listed
      rw [mem_ahead]
      constructor
      · rintro ⟨present, asked, beyond⟩
        have passed : Beyond key cursor last :=
          (mem_ahead.mp (whole ▸ List.mem_append_left _ (List.mem_append_right _ (List.mem_singleton_self last)))).2.2
        have further : Beyond key cursor document := by
          cases cursor with
          | none => trivial
          | some place => exact lt_trans passed beyond
        refine (listed.mpr ⟨present, asked, further⟩).resolve_left fun early => ?_
        rcases List.mem_append.mp early with inside | final
        · exact absurd ((List.pairwise_append.mp before).2.2 document inside last (List.mem_singleton_self last))
            (not_lt_of_gt beyond)
        · exact absurd beyond (List.mem_singleton.mp final ▸ lt_irrefl _)
      · intro later
        obtain ⟨present, asked, _⟩ := listed.mp (Or.inr later)
        exact ⟨present, asked, between last (List.mem_append_right _ (List.mem_singleton_self last)) document later⟩
    rw [place]
    have rest := ahead_strict separate (some (key last))
    have same : (ahead key wanted documents (some (key last))).Perm ((ahead key wanted documents cursor).drop count) :=
      (List.perm_ext_iff_of_nodup (distinct rest) (distinct after)).mpr members
    exact same.eq_of_pairwise (fun _ _ _ _ lower upper => absurd lower (not_lt_of_gt upper)) rest after

end Walks

section Coverage

variable {key} {wanted : δ → Bool} {handled : δ → Prop} {documents read : List δ} {cursor : Option κ} {size : Nat}

/-- Without documents everything is covered. -/
theorem Covered.empty : Covered key wanted handled [] cursor := by
  intro document member
  cases member

/-- Without a cursor nothing has to be. -/
theorem Covered.none : Covered key wanted handled documents none := by
  intro document _ _ behind
  exact absurd trivial behind

theorem Covered.weaken {weaker : δ → Prop} (covered : Covered key wanted handled documents cursor)
    (implies : ∀ document, handled document → weaker document) : Covered key wanted weaker documents cursor :=
  fun document member asked behind => implies document (covered document member asked behind)

/-- A new document may only appear beyond the cursor. -/
theorem Covered.create (covered : Covered key wanted handled documents cursor) {document : δ}
    (beyond : wanted document = true → Beyond key cursor document) :
    Covered key wanted handled (documents ++ [document]) cursor := by
  intro other member asked behind
  rcases List.mem_append.mp member with old | new
  · exact covered other old asked behind
  · cases List.mem_singleton.mp new
    exact absurd (beyond asked) behind

/-- The cursor may pass the documents of a page from its start on, when each of them is handled. -/
theorem Covered.advance (covered : Covered key wanted handled documents cursor)
    (distinct : Distinct key wanted documents) (taken : read <+: page key wanted documents cursor size)
    (done : ∀ document ∈ read, handled document) :
    Covered key wanted handled documents (advance key cursor read) := by
  rcases List.eq_nil_or_concat read with rfl | ⟨front, last, rfl⟩
  · exact covered
  intro document member asked behind
  rw [List.concat_eq_append] at *
  have inside : last ∈ front ++ [last] := by simp
  have reached : key document ≤ key last := by
    simpa [Cursor.advance, Beyond] using behind
  by_cases ahead : Beyond key cursor document
  · by_cases listed : document ∈ front ++ [last]
    · exact done document listed
    · have atMost := le_of_not_read taken inside (mem_ahead.mpr ⟨member, asked, ahead⟩) listed
      obtain ⟨present, wantedLast, _⟩ := mem_of_mem_page (taken.subset inside)
      have same := distinct document member last present asked wantedLast (le_antisymm reached atMost)
      exact done document (same ▸ inside)
  · exact covered document member asked ahead

/-- When a page is not full and all of it is handled, every wanted document is handled. -/
theorem Covered.finish (covered : Covered key wanted handled documents cursor)
    (short : (page key wanted documents cursor size).length < size)
    (done : ∀ document ∈ page key wanted documents cursor size, handled document) :
    ∀ document ∈ documents, wanted document = true → handled document := by
  intro document member asked
  by_cases ahead : Beyond key cursor document
  · rw [page_complete short] at done
    exact done document (mem_ahead.mpr ⟨member, asked, ahead⟩)
  · exact covered document member asked ahead

end Coverage

section Progress

variable {wanted : δ → Bool} {documents read : List δ} {cursor : Option κ} {size : Nat} {document : δ}

/-- The number of wanted documents that the cursor has passed. -/
def passed (wanted : δ → Bool) (documents : List δ) (cursor : Option κ) : Nat :=
  documents.countP fun document => wanted document && !decide (Beyond key cursor document)

/-- A weaker condition that one more entry meets counts more entries. -/
theorem countP_lt_countP {strong weak : δ → Bool} (implies : ∀ entry ∈ documents, strong entry → weak entry)
    (member : document ∈ documents) (met : weak document = true) (failed : strong document = false) :
    documents.countP strong < documents.countP weak := by
  obtain ⟨before, after, rfl⟩ := List.append_of_mem member
  have front := List.countP_mono_left fun entry inside => implies entry (List.mem_append_left _ inside)
  have back := List.countP_mono_left (l := after) fun entry inside => implies entry (by simp [inside])
  rw [List.countP_append, List.countP_append, List.countP_cons_of_pos met, List.countP_cons_of_neg (by simp [failed])]
  omega

variable {key}

/-- More documents are passed by no fewer. -/
theorem passed_append (wanted : δ → Bool) (documents more : List δ) (cursor : Option κ) :
    passed key wanted documents cursor ≤ passed key wanted (documents ++ more) cursor := by
  simp [passed]

/-- A cursor that advances passes no fewer. -/
theorem passed_advance (taken : read <+: page key wanted documents cursor size) :
    passed key wanted documents cursor ≤ passed key wanted documents (advance key cursor read) := by
  refine List.countP_mono_left fun document _ old => ?_
  simp only [Bool.and_eq_true, Bool.not_eq_true', decide_eq_false_iff_not] at old ⊢
  exact ⟨old.1, fun beyond => old.2 (beyond_of_advance taken beyond)⟩

/-- A search that reads something passes a document. -/
theorem passed_lt_advance (taken : read <+: page key wanted documents cursor size) (something : read ≠ []) :
    passed key wanted documents cursor < passed key wanted documents (advance key cursor read) := by
  rcases List.eq_nil_or_concat read with rfl | ⟨front, last, rfl⟩
  · exact absurd rfl something
  · obtain ⟨member, asked, beyond⟩ := mem_of_mem_page (taken.subset (by simp : last ∈ front.concat last))
    refine countP_lt_countP (fun document _ old => ?_) member ?_ ?_
    · simp only [Bool.and_eq_true, Bool.not_eq_true', decide_eq_false_iff_not] at old ⊢
      exact ⟨old.1, fun beyond => old.2 (beyond_of_advance taken beyond)⟩
    · simp [asked, advance, Beyond]
    · simp [beyond]

/-- A wanted document ahead of the cursor is not among those that it has passed. -/
theorem passed_lt (member : document ∈ documents) (asked : wanted document = true)
    (beyond : Beyond key cursor document) : passed key wanted documents cursor < documents.countP wanted :=
  countP_lt_countP (fun document _ old => (Bool.and_eq_true_iff.mp old).1) member asked (by simp [beyond])

end Progress

end ClosedLoop.Library.Cursor
