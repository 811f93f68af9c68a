/-
Names of the files of reports.

A report is saved under the time of its run, with dashes for the colons and points of the time.
Dashes stand in dates and in offsets too, and fractions, offsets and their seconds can be left
out; still the time can be told from the name.  A name is read field by field from the left: all
fields have fixed widths, and where a fraction may be left out, the fourth character tells it from
an offset (`fraction_append_inj`).  So two moments have the same name only if they are the same
(`eq_of_dashed_text`).

Design notes: the names are compared as lists of characters (`dashed`), since a dash does not tell
what it stands for.
-/
import ContractDrift.Drift.Report
import ContractDrift.Proofs.Drift.Moment
import ContractDrift.Proofs.Files.Containment

namespace ContractDrift.Drift

/-! ## Moments -/

/-- The offsets that a clock can have: less than a day either way. -/
def Offset.IsValid (o : Offset) : Prop := o.microseconds.natAbs < 86400000000

/-- The moments that a calendar and a clock can show, with or without an offset. -/
structure Moment.IsValid (m : Moment) : Prop where
  year : 1 ≤ m.year ∧ m.year ≤ 9999
  month : 1 ≤ m.month ∧ m.month ≤ 12
  day : 1 ≤ m.day ∧ m.day ≤ 31
  hour : m.hour < 24
  minute : m.minute < 60
  second : m.second < 60
  microsecond : m.microsecond < 1000000
  offset : ∀ o ∈ m.offset, o.IsValid

/-! ## Dashes -/

/-- The characters of a text with dashes for colons and points. -/
def dashed (s : String) : List Char :=
  s.toList.map fun c => if c = ':' ∨ c = '.' then '-' else c

theorem toList_fileName (r : Report) :
    r.fileName.toList = "drift-report-".toList ++ dashed r.timestamp ++ ".json".toList := by
  simp [Report.fileName, dashed]

@[simp]
theorem dashed_append (a b : String) : dashed (a ++ b) = dashed a ++ dashed b := by
  simp [dashed]

@[simp]
theorem dashed_padded (width n : Nat) : dashed (padded width n) = (padded width n).toList := by
  refine (List.map_congr_left fun c hc => if_neg ?_).trans (List.map_id _)
  have hdigit := isDigit_of_mem_padded width n c hc
  rintro (rfl | rfl)
  · exact absurd hdigit (by decide)
  · exact absurd hdigit (by decide)

theorem dashed_fractionText (n : Nat) :
    dashed (fractionText n) = if n = 0 then [] else '-' :: (padded 6 n).toList := by
  unfold fractionText
  split
  · rfl
  · rw [dashed_append, dashed_padded]
    rfl

/-- The sign of an offset. -/
def Offset.sign (o : Offset) : Char := if o.microseconds < 0 then '-' else '+'

theorem dashed_offsetText (o : Offset) :
    dashed o.text = o.sign ::
      ((padded 2 (o.microseconds.natAbs / 1000000 / 3600)).toList ++ '-' ::
        ((padded 2 (o.microseconds.natAbs / 1000000 / 60 % 60)).toList ++
          if o.microseconds.natAbs % 60000000 = 0 then []
          else '-' :: ((padded 2 (o.microseconds.natAbs / 1000000 % 60)).toList ++
            dashed (fractionText (o.microseconds.natAbs % 1000000))))) := by
  have hsign : dashed (if o.microseconds < 0 then "-" else "+") = [o.sign] := by
    unfold Offset.sign
    split <;> rfl
  have hcolon : dashed ":" = ['-'] := rfl
  -- whole minutes are written without seconds
  unfold Offset.text
  simp only [dashed_append, hsign, hcolon, dashed_padded]
  split
  · simp [show dashed "" = [] from rfl]
  · simp [hcolon]

/-- The characters of the offset of a moment, if it has one. -/
def dashedOffset (o : Option Offset) : List Char := dashed ((o.map Offset.text).getD "")

theorem dashed_momentText (m : Moment) :
    dashed m.text = (padded 4 m.year).toList ++ '-' :: ((padded 2 m.month).toList ++
      '-' :: ((padded 2 m.day).toList ++ 'T' :: ((padded 2 m.hour).toList ++
        '-' :: ((padded 2 m.minute).toList ++ '-' :: ((padded 2 m.second).toList ++
          (dashed (fractionText m.microsecond) ++ dashedOffset m.offset)))))) := by
  have hdash : dashed "-" = ['-'] := rfl
  have hcolon : dashed ":" = ['-'] := rfl
  have hletter : dashed "T" = ['T'] := rfl
  simp [Moment.text, dashedOffset, hdash, hcolon, hletter]

/-! ## Fields -/

/-- A field with a separator behind it is cut off and read. -/
theorem field_inj {width n n' : Nat} {c c' : Char} {r r' : List Char} (hwidth : 0 < width)
    (hn : n < 10 ^ width) (hn' : n' < 10 ^ width)
    (h : (padded width n).toList ++ c :: r = (padded width n').toList ++ c' :: r') :
    n = n' ∧ r = r' := by
  obtain ⟨hvalue, hrest⟩ := padded_append_inj hwidth hn hn' h
  exact ⟨hvalue, (List.cons.inj hrest).2⟩

/-- What does not go on with a fraction: its fourth character is no digit. -/
def NoFraction (cs : List Char) : Prop := ∀ c ∈ cs[3]?, c.isDigit = false

theorem not_noFraction {n : Nat} (hn : n ≠ 0) (r : List Char) :
    ¬ NoFraction (dashed (fractionText n) ++ r) := by
  have hlength : 2 < (padded 6 n).toList.length :=
    Nat.lt_of_lt_of_le (by decide) (width_le_length_padded 6 n)
  intro h
  -- the fourth character is the third digit of the fraction
  rw [dashed_fractionText, if_neg hn, NoFraction, List.cons_append, List.getElem?_cons_succ,
    List.getElem?_append_left hlength, List.getElem?_eq_getElem hlength] at h
  have hdigit := isDigit_of_mem_padded 6 n _ (List.getElem_mem hlength)
  rw [h _ rfl] at hdigit
  exact absurd hdigit Bool.false_ne_true

theorem noFraction_dashedOffset {o : Option Offset} (h : ∀ x ∈ o, x.IsValid) :
    NoFraction (dashedOffset o) := by
  cases o with
  | none =>
    intro c hc
    cases hc
  | some o =>
    have hvalid : o.microseconds.natAbs < 86400000000 := h o rfl
    have hlength : (padded 2 (o.microseconds.natAbs / 1000000 / 3600)).toList.length = 2 :=
      length_padded (by decide) (by omega)
    -- behind the sign and the hours stands a dash
    rw [NoFraction, dashedOffset, Option.map_some, Option.getD_some, dashed_offsetText,
      List.getElem?_cons_succ, List.getElem?_append_right (by omega), hlength]
    intro c hc
    obtain rfl : '-' = c := by simpa using hc
    rfl

/-- A fraction, or the absence of one, is told from what follows it. -/
theorem fraction_append_inj {n n' : Nat} {r r' : List Char} (hn : n < 1000000)
    (hn' : n' < 1000000) (hr : NoFraction r) (hr' : NoFraction r')
    (h : dashed (fractionText n) ++ r = dashed (fractionText n') ++ r') : n = n' ∧ r = r' := by
  have hnone : dashed (fractionText 0) = [] := rfl
  -- where only one side has a fraction, the other has no digit where the fraction has one
  by_cases h0 : n = 0
  · subst h0
    by_cases h0' : n' = 0
    · subst h0'
      exact ⟨rfl, by simpa [hnone] using h⟩
    · rw [hnone, List.nil_append] at h
      exact absurd (h ▸ hr) (not_noFraction h0' r')
  · by_cases h0' : n' = 0
    · subst h0'
      rw [hnone, List.nil_append] at h
      exact absurd (h ▸ hr') (not_noFraction h0 r)
    · rw [dashed_fractionText, if_neg h0, dashed_fractionText, if_neg h0', List.cons_append,
        List.cons_append] at h
      exact padded_append_inj (by decide) hn hn' (List.cons.inj h).2

theorem fraction_inj {n n' : Nat} (hn : n < 1000000) (hn' : n' < 1000000)
    (h : dashed (fractionText n) = dashed (fractionText n')) : n = n' := by
  have hnil : NoFraction [] := fun c hc => by cases hc
  exact (fraction_append_inj hn hn' hnil hnil (by rw [h])).1

/-! ## Offsets and moments -/

theorem sign_inj {o o' : Offset} (h : o.sign = o'.sign) :
    o.microseconds < 0 ↔ o'.microseconds < 0 := by
  have hsides : ('-' : Char) ≠ '+' := by decide
  unfold Offset.sign at h
  constructor
  · intro hbehind
    by_contra hahead
    rw [if_pos hbehind, if_neg hahead] at h
    exact hsides h
  · intro hbehind
    by_contra hahead
    rw [if_pos hbehind, if_neg hahead] at h
    exact hsides h.symm

theorem eq_of_dashed_offsetText {o o' : Offset} (ho : o.IsValid) (ho' : o'.IsValid)
    (h : dashed o.text = dashed o'.text) : o = o' := by
  unfold Offset.IsValid at ho ho'
  rw [dashed_offsetText, dashed_offsetText, List.cons.injEq] at h
  obtain ⟨hsign, h⟩ := h
  obtain ⟨hhours, h⟩ := field_inj (by decide) (by omega) (by omega) h
  obtain ⟨hminutes, h⟩ := padded_append_inj (by decide) (by omega) (by omega) h
  -- the seconds are left out on both sides or on none, for their separator would be missing
  have hamount : o.microseconds.natAbs = o'.microseconds.natAbs := by
    by_cases hwhole : o.microseconds.natAbs % 60000000 = 0
    · by_cases hwhole' : o'.microseconds.natAbs % 60000000 = 0
      · omega
      · simp [hwhole, hwhole'] at h
    · by_cases hwhole' : o'.microseconds.natAbs % 60000000 = 0
      · simp [hwhole, hwhole'] at h
      · rw [if_neg hwhole, if_neg hwhole', List.cons.injEq] at h
        obtain ⟨hseconds, h⟩ := padded_append_inj (by decide) (by omega) (by omega) h.2
        have hfraction := fraction_inj (Nat.mod_lt _ (by decide)) (Nat.mod_lt _ (by decide)) h
        omega
  have hside := sign_inj hsign
  obtain ⟨n⟩ := o
  obtain ⟨n'⟩ := o'
  exact congrArg Offset.mk (by simp only at hamount hside; omega)

theorem eq_of_dashedOffset {o o' : Option Offset} (ho : ∀ x ∈ o, x.IsValid)
    (ho' : ∀ x ∈ o', x.IsValid) (h : dashedOffset o = dashedOffset o') : o = o' := by
  have hsome (x : Offset) : dashedOffset none ≠ dashedOffset (some x) := by
    rw [dashedOffset, dashedOffset, Option.map_some, Option.getD_some, dashed_offsetText]
    exact (List.cons_ne_nil _ _).symm
  cases o with
  | none =>
    cases o' with
    | none => rfl
    | some x => exact absurd h (hsome x)
  | some x =>
    cases o' with
    | none => exact absurd h.symm (hsome x)
    | some y => exact congrArg some (eq_of_dashed_offsetText (ho x rfl) (ho' y rfl) h)

/-- A moment is told from its text even where dashes stand for colons and points. -/
theorem eq_of_dashed_text {m m' : Moment} (hm : m.IsValid) (hm' : m'.IsValid)
    (h : dashed m.text = dashed m'.text) : m = m' := by
  obtain ⟨⟨-, hyear⟩, ⟨-, hmonth⟩, ⟨-, hday⟩, hhour, hminute, hsecond, hmicrosecond, hoffset⟩ := hm
  obtain ⟨⟨-, hyear'⟩, ⟨-, hmonth'⟩, ⟨-, hday'⟩, hhour', hminute', hsecond', hmicrosecond',
    hoffset'⟩ := hm'
  rw [dashed_momentText, dashed_momentText] at h
  -- the fields from left to right; the fraction and the offset can be left out
  obtain ⟨hyears, h⟩ := field_inj (by decide) (by omega) (by omega) h
  obtain ⟨hmonths, h⟩ := field_inj (by decide) (by omega) (by omega) h
  obtain ⟨hdays, h⟩ := field_inj (by decide) (by omega) (by omega) h
  obtain ⟨hhours, h⟩ := field_inj (by decide) (by omega) (by omega) h
  obtain ⟨hminutes, h⟩ := field_inj (by decide) (by omega) (by omega) h
  obtain ⟨hseconds, h⟩ := padded_append_inj (by decide) (by omega) (by omega) h
  obtain ⟨hmicroseconds, h⟩ := fraction_append_inj hmicrosecond hmicrosecond'
    (noFraction_dashedOffset hoffset) (noFraction_dashedOffset hoffset') h
  have hoffsets := eq_of_dashedOffset hoffset hoffset' h
  cases m
  cases m'
  rw [Moment.mk.injEq]
  exact ⟨hyears, hmonths, hdays, hhours, hminutes, hseconds, hmicroseconds, hoffsets⟩

/-! ## Names -/

/-- The characters of a time with dashes for colons and points. -/
def IsTimeChar (c : Char) : Prop := c.isDigit = true ∨ c = '-' ∨ c = 'T' ∨ c = '+'

theorem isTimeChar_padded (width n : Nat) : ∀ c ∈ (padded width n).toList, IsTimeChar c :=
  fun c hc => .inl (isDigit_of_mem_padded width n c hc)

theorem isTimeChar_fractionText (n : Nat) : ∀ c ∈ dashed (fractionText n), IsTimeChar c := by
  rw [dashed_fractionText]
  split
  · exact List.forall_mem_nil _
  · exact List.forall_mem_cons.mpr ⟨.inr (.inl rfl), isTimeChar_padded 6 n⟩

theorem isTimeChar_offsetText (o : Offset) : ∀ c ∈ dashed o.text, IsTimeChar c := by
  have hsign : IsTimeChar o.sign := by
    unfold Offset.sign
    split
    · exact .inr (.inl rfl)
    · exact .inr (.inr (.inr rfl))
  rw [dashed_offsetText, List.forall_mem_cons, List.forall_mem_append, List.forall_mem_cons,
    List.forall_mem_append]
  refine ⟨hsign, isTimeChar_padded 2 _, .inr (.inl rfl), isTimeChar_padded 2 _, ?_⟩
  split
  · exact List.forall_mem_nil _
  · rw [List.forall_mem_cons, List.forall_mem_append]
    exact ⟨.inr (.inl rfl), isTimeChar_padded 2 _, isTimeChar_fractionText _⟩

theorem isTimeChar_momentText (m : Moment) : ∀ c ∈ dashed m.text, IsTimeChar c := by
  have hdash : IsTimeChar '-' := .inr (.inl rfl)
  have hoffset : ∀ c ∈ dashedOffset m.offset, IsTimeChar c := by
    cases m.offset with
    | none => exact List.forall_mem_nil _
    | some o => exact isTimeChar_offsetText o
  rw [dashed_momentText]
  simp only [List.forall_mem_append, List.forall_mem_cons]
  exact ⟨isTimeChar_padded 4 _, hdash, isTimeChar_padded 2 _, hdash, isTimeChar_padded 2 _,
    .inr (.inr (.inl rfl)), isTimeChar_padded 2 _, hdash, isTimeChar_padded 2 _, hdash,
    isTimeChar_padded 2 _, isTimeChar_fractionText _, hoffset⟩

/-- A name that every file system takes: without colons and slashes, and with one point only, that
of its ending. -/
structure IsSafeName (name : String) : Prop where
  no_colon : ':' ∉ name.toList
  no_slash : '/' ∉ name.toList
  count_point : name.toList.count '.' = 1
  ending : ∃ stem, name = stem ++ ".json"

variable {m m' : Moment}

theorem isSafeName_fileName (m : Moment) (results : List Result) :
    IsSafeName (Report.ofResults m results).fileName := by
  have hname := toList_fileName (Report.ofResults m results)
  have hnot {c : Char} (hc : ¬ IsTimeChar c) : c ∉ dashed m.text :=
    fun hmem => hc (isTimeChar_momentText m c hmem)
  have hcolon := hnot (c := ':') (by unfold IsTimeChar; decide)
  have hslash := hnot (c := '/') (by unfold IsTimeChar; decide)
  have hpoint := hnot (c := '.') (by unfold IsTimeChar; decide)
  refine ⟨?_, ?_, ?_, ⟨_, rfl⟩⟩
  · rw [hname]
    simpa [Report.ofResults] using hcolon
  · rw [hname]
    simpa [Report.ofResults] using hslash
  · rw [hname]
    simp [Report.ofResults, List.count_append, List.count_eq_zero_of_not_mem hpoint]

/-- The file of a report can stand in any directory. -/
theorem isName_fileName (m : Moment) (results : List Result) :
    Files.IsName (Report.ofResults m results).fileName := by
  have hname := toList_fileName (Report.ofResults m results)
  have hstart : (Report.ofResults m results).fileName.toList.head? = some 'd' := by
    rw [hname]
    rfl
  have hne {s : String} (hs : s.toList.head? ≠ some 'd') :
      (Report.ofResults m results).fileName ≠ s := fun h => hs (h ▸ hstart)
  refine ⟨hne (by decide), hne (by decide), hne (by decide),
    (isSafeName_fileName m results).no_slash, fun hnull => ?_⟩
  rw [hname] at hnull
  have hmem : '\x00' ∈ dashed m.text := by simpa [Report.ofResults] using hnull
  have hchar := isTimeChar_momentText m _ hmem
  revert hchar
  unfold IsTimeChar
  decide

/-- Reports of two moments have the same name only if the moments are the same. -/
theorem eq_of_fileName (hm : m.IsValid) (hm' : m'.IsValid) {results results' : List Result}
    (h : (Report.ofResults m results).fileName = (Report.ofResults m' results').fileName) :
    m = m' := by
  have hlist := congrArg String.toList h
  rw [toList_fileName, toList_fileName, List.append_assoc, List.append_assoc] at hlist
  exact eq_of_dashed_text hm hm' (List.append_cancel_right (List.append_cancel_left hlist))

end ContractDrift.Drift
