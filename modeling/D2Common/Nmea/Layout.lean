import Mathlib.Data.List.Forall2
import D2Common.Nmea.Checksum

/-
  Sentences that are written field by field.

  All sentences of a position report are made alike: some
  texts are appended with a check, the last one without, and
  then the checksum is put behind. A text that fails its
  check ends the report. The file says when every sentence
  that such a report sends is whole.

  Key definitions include:
    * `Layout`
    * `Layout.write`
    * `sendLayouts`
    * `Whole`
    * `Room`

  Key theorems include:
    * `appendAll_eq`
    * `Layout.whole_iff`
    * `whole_sendLayouts_iff`
-/

------------------------------------------------------------
-- Layouts
------------------------------------------------------------

namespace D2Common

namespace Nmea

/- Appends with a check, one after the other. -/
def appendAll :
    List Sentence → Sentence → Option Sentence
| [], sentence => some sentence
| text :: texts, sentence => do
    let sentence ← append sentence text
    appendAll texts sentence

/-
  The texts of a sentence: those whose append is checked,
  and the last one, whose append is not.
-/
structure Layout where
  checked : List Sentence
  last : Sentence
deriving DecidableEq

/- The whole text, without the checksum. -/
def Layout.text (p : Layout) : Sentence :=
  p.checked.flatten ++ p.last

/- The sentence, unless the check of a text fails. -/
def Layout.write (p : Layout) : Option Sent := do
  let sentence ← appendAll p.checked []
  some
    (putChecksum (appendCut sentence p.last)
      nmeaSentenceMaxLength)

/-
  The sentences of a report, one after the other. The check
  that fails ends the report.
-/
def sendLayouts : List Layout → List Sent × Bool
| [] => ([], true)
| p :: ps =>
    match p.write with
    | none => ([], false)
    | some sent =>
        let (later, complete) := sendLayouts ps
        (sent :: later, complete)

/- The checked texts of a layout fit the array. -/
def Layout.Passes (p : Layout) : Prop :=
  p.checked.flatten.length < nmeaSentenceMaxLength

/- The whole text fits, with five characters behind it. -/
def Layout.Fits (p : Layout) : Prop :=
  p.text.length + 5 < nmeaSentenceMaxLength

instance (p : Layout) : Decidable p.Passes :=
  inferInstanceAs (Decidable (_ < _))

instance (p : Layout) : Decidable p.Fits :=
  inferInstanceAs (Decidable (_ < _))

/-
  A sentence with all its texts and the checksum, that fits
  the array with its NUL, and is passed with a length that
  does not exceed it.
-/
structure Whole
    (p : Layout)
    (sent : Sent) : Prop where
  text :
    sent.pNmea =
      p.text ++
        checksumText
          (p.text.tail.foldl
            (fun sum c => sum ^^^ UInt8.ofNat c.toNat) 0)
  fits : sent.pNmea.length < nmeaSentenceMaxLength
  length : sent.length ≤ sent.pNmea.length

theorem appendAll_eq
    (texts : List Sentence)
    {sentence : Sentence}
    (hRoom : sentence.length < nmeaSentenceMaxLength) :
    appendAll texts sentence =
      if (sentence ++ texts.flatten).length <
          nmeaSentenceMaxLength then
        some (sentence ++ texts.flatten)
      else none := by
  induction texts generalizing sentence with
  | nil => simp [appendAll, hRoom]
  | cons text texts ih =>
      unfold appendAll append lengthRemaining
      by_cases hText :
          (sentence ++ text).length < nmeaSentenceMaxLength
      · rw [List.length_append] at hText
        rw [if_neg (by omega)]
        simp only [Option.bind_eq_bind, Option.bind_some]
        rw [ih (by rw [List.length_append]; omega),
          List.flatten_cons, List.append_assoc]
      · rw [List.length_append] at hText
        rw [if_pos (by omega), if_neg]
        · rfl
        · simp only [List.flatten_cons, List.length_append]
          omega

/- What is written once the checks have passed. -/
theorem Layout.write_eq
    (p : Layout) :
    p.write =
      if p.Passes then
        some
          (putChecksum (appendCut p.checked.flatten p.last)
            nmeaSentenceMaxLength)
      else none := by
  have hEmpty :
      ([] : Sentence).length < nmeaSentenceMaxLength := by
    decide
  have hAppend := appendAll_eq p.checked hEmpty
  rw [List.nil_append] at hAppend
  unfold Layout.write
  rw [hAppend]
  by_cases hPasses : p.Passes
  · have hLength :
        p.checked.flatten.length < nmeaSentenceMaxLength :=
      hPasses
    rw [if_pos hPasses, if_pos hLength]
    rfl
  · have hLength :
        ¬ p.checked.flatten.length < nmeaSentenceMaxLength :=
      hPasses
    rw [if_neg hPasses, if_neg hLength]
    rfl

/- A sentence that is sent starts with its checked texts. -/
theorem write_prefix
    {p : Layout}
    {sent : Sent}
    (hWrite : p.write = some sent) :
    ∃ tail, sent.pNmea = p.checked.flatten ++ tail := by
  rw [p.write_eq] at hWrite
  split at hWrite
  · rw [← Option.some.inj hWrite]
    simp only [putChecksum, appendCut, List.append_assoc]
    exact ⟨_, rfl⟩
  · cases hWrite

theorem appendCut_of_fits
    {p : Layout}
    (hFits : p.Fits) :
    appendCut p.checked.flatten p.last = p.text := by
  unfold Layout.Fits at hFits
  unfold Layout.text at hFits ⊢
  rw [List.length_append] at hFits
  unfold appendCut lengthRemaining
  rw [List.take_of_length_le (by omega)]

/-
  Behind passed checks a sentence is whole exactly if its
  last text and the checksum fit as well.
-/
theorem Layout.whole_iff
    (p : Layout) :
    Whole p
        (putChecksum (appendCut p.checked.flatten p.last)
          nmeaSentenceMaxLength) ↔
      p.Fits := by
  have hFive (checksum : UInt8) :
      (checksumText checksum).length = 5 := rfl
  constructor
  · intro hWhole
    have hLength := hWhole.fits
    rw [hWhole.text, List.length_append, hFive] at hLength
    exact hLength
  · intro hFits
    have hText := appendCut_of_fits hFits
    have hTail : p.text.tail.length = p.text.length - 1 :=
      List.length_tail
    have hMax : nmeaSentenceMaxLength = 200 := rfl
    unfold Layout.Fits at hFits
    have hEq :
        (putChecksum (appendCut p.checked.flatten p.last)
            nmeaSentenceMaxLength).pNmea =
          p.text ++
            checksumText
              (p.text.tail.foldl
                (fun sum c => sum ^^^ UInt8.ofNat c.toNat)
                0) := by
      rw [hText]
      simp only [putChecksum]
      rw [List.take_of_length_le]
      · rfl
      · simp only [List.length_cons, List.length_nil]
        omega
    have hTotal :
        (putChecksum (appendCut p.checked.flatten p.last)
            nmeaSentenceMaxLength).length =
          p.text.tail.length + 5 := by
      rw [hText]
      rfl
    refine ⟨hEq, ?_, ?_⟩
    · rw [hEq, List.length_append, hFive]
      exact hFits
    · rw [hTotal, hEq, List.length_append, hFive]
      omega

theorem mem_sendLayouts
    {ps : List Layout}
    {sent : Sent}
    (hSent : sent ∈ (sendLayouts ps).1) :
    ∃ p ∈ ps, p.write = some sent := by
  induction ps with
  | nil => exact absurd hSent List.not_mem_nil
  | cons p ps ih =>
      unfold sendLayouts at hSent
      cases hWrite : p.write with
      | none =>
          rw [hWrite] at hSent
          exact absurd hSent List.not_mem_nil
      | some first =>
          rw [hWrite] at hSent
          rcases List.mem_cons.mp hSent with rfl | hLater
          · exact ⟨p, List.mem_cons_self, hWrite⟩
          · rcases ih hLater with ⟨q, hq, hWrite'⟩
            exact ⟨q, List.mem_cons_of_mem p hq, hWrite'⟩

/-
  Every sentence that comes to be sent has room: if its own
  checks and those of all before it pass, it fits.
-/
def Room (ps : List Layout) : Prop :=
  ∀ before p after,
    ps = before ++ p :: after →
      (∀ q ∈ before ++ [p], q.Passes) →
        p.Fits

theorem room_cons
    (p : Layout)
    (ps : List Layout) :
    Room (p :: ps) ↔
      (p.Passes → p.Fits ∧ Room ps) := by
  constructor
  · intro hRoom hPasses
    refine ⟨hRoom [] p ps rfl (by simpa using hPasses), ?_⟩
    intro before q after hSplit hBefore
    apply hRoom (p :: before) q after
    · rw [hSplit]
      rfl
    · intro r hr
      rcases List.mem_cons.mp hr with rfl | hr
      · exact hPasses
      · exact hBefore r hr
  · intro hStep before q after hSplit hBefore
    have hFirst : p.Passes := by
      apply hBefore
      cases before with
      | nil =>
          rw [(List.cons.inj hSplit).1]
          simp
      | cons r before =>
          rw [(List.cons.inj hSplit).1]
          simp
    rcases hStep hFirst with ⟨hFits, hRest⟩
    cases before with
    | nil =>
        rw [← (List.cons.inj hSplit).1]
        exact hFits
    | cons r before =>
        apply hRest before q after (List.cons.inj hSplit).2
        intro x hx
        exact hBefore x (List.mem_cons_of_mem r hx)

/-
  All sentences that a report sends are whole if and only if
  each that comes to be sent has room. So none is sent that
  does not fit.
-/
theorem whole_sendLayouts_iff
    (ps : List Layout) :
    List.Forall₂ Whole
        (ps.take (sendLayouts ps).1.length)
        (sendLayouts ps).1 ↔
      Room ps := by
  induction ps with
  | nil =>
      refine iff_of_true List.Forall₂.nil ?_
      intro before p after hSplit
      simp at hSplit
  | cons p ps ih =>
      rw [room_cons]
      by_cases hPasses : p.Passes
      · have hSend :
            (sendLayouts (p :: ps)).1 =
              putChecksum
                  (appendCut p.checked.flatten p.last)
                  nmeaSentenceMaxLength ::
                (sendLayouts ps).1 := by
          simp only [sendLayouts, p.write_eq, if_pos hPasses]
        rw [hSend, List.length_cons, List.take_succ_cons,
          List.forall₂_cons, p.whole_iff, ih]
        exact ⟨fun hBoth _ => hBoth, fun hAll => hAll hPasses⟩
      · have hSend : (sendLayouts (p :: ps)).1 = [] := by
          simp only [sendLayouts, p.write_eq, if_neg hPasses]
        rw [hSend]
        exact iff_of_true List.Forall₂.nil
          (fun hTrue => absurd hTrue hPasses)

end Nmea

end D2Common
