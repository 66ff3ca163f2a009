import D2Common.Foundations.FixedPoint
import D2Common.Nmea.Format

/-
  Reading a sentence.

  The fields of a sentence are what stands between its
  commas, up to the `*` of its checksum. The file reads them
  back, and the whole numbers that they show.

  Key definitions include:
    * `fields`
    * `bodyOf`
    * `shownNat`
    * `shownInt`

  Key theorems include:
    * `fields_commaEnded`
    * `fields_commaLed`
    * `shownInt_formatInt`
    * `bodyOf_putChecksum`
-/

------------------------------------------------------------
-- Fields
------------------------------------------------------------

namespace D2Common

namespace Nmea

/- The fields of a sentence. -/
def fields (sentence : Sentence) : List Sentence :=
  sentence.splitOn ','

/- Fields with a comma behind each. -/
def commaEnded (texts : List Sentence) : Sentence :=
  texts.flatMap (· ++ [','])

/- Fields with a comma in front of each. -/
def commaLed (texts : List Sentence) : Sentence :=
  texts.flatMap (',' :: ·)

theorem fields_commaEnded
    {texts : List Sentence}
    (hTexts : ∀ text ∈ texts, ',' ∉ text)
    (rest : Sentence) :
    fields (commaEnded texts ++ rest) =
      texts ++ fields rest := by
  induction texts with
  | nil => rfl
  | cons text texts ih =>
      have hRest :=
        ih fun x hx => hTexts x (List.mem_cons_of_mem text hx)
      have hSplit :=
        List.splitOn_append_cons_self_of_not_mem
          (hTexts text List.mem_cons_self)
          (commaEnded texts ++ rest)
      unfold fields at hRest ⊢
      rw [List.cons_append, ← hRest, ← hSplit]
      simp [commaEnded]

theorem fields_commaLed
    {first : Sentence}
    {texts : List Sentence}
    (hFirst : ',' ∉ first)
    (hTexts : ∀ text ∈ texts, ',' ∉ text) :
    fields (first ++ commaLed texts) = first :: texts := by
  induction texts generalizing first with
  | nil =>
      rw [commaLed, List.flatMap_nil, List.append_nil]
      exact List.splitOn_eq_singleton hFirst
  | cons text texts ih =>
      have hRest :=
        ih (hTexts text List.mem_cons_self) fun x hx =>
          hTexts x (List.mem_cons_of_mem text hx)
      have hSplit :=
        List.splitOn_append_cons_self_of_not_mem hFirst
          (text ++ commaLed texts)
      exact hSplit.trans (congrArg (first :: ·) hRest)

/- A sentence up to its checksum. -/
def bodyOf (sentence : Sentence) : Sentence :=
  sentence.takeWhile (· ≠ '*')

theorem bodyOf_append
    {body : Sentence}
    (hBody : '*' ∉ body)
    (rest : Sentence) :
    bodyOf (body ++ '*' :: rest) = body := by
  unfold bodyOf
  rw [List.takeWhile_append_of_pos]
  · simp
  · intro c hc
    exact decide_eq_true fun hStar => hBody (hStar ▸ hc)

end Nmea

end D2Common

------------------------------------------------------------
-- Whole Numbers
------------------------------------------------------------

namespace D2Common

namespace Nmea

/- The number that a field of digits shows. -/
def shownNat (field : Sentence) : Option Nat :=
  if field ≠ [] ∧ field.all Char.isDigit then
    some (Nat.ofDigitChars 10 field 0)
  else none

/- The number of a field that may have a sign. -/
def shownInt (field : Sentence) : Option Int :=
  if field.head? = some '-' then
    (shownNat field.tail).map fun n : Nat => -(n : Int)
  else
    (shownNat field).map Int.ofNat

/- A whole number in print, with zeros in front. -/
theorem formatInt_natCast (width n : Nat) :
    formatInt width n =
      (Nat.toDigits 10 n).leftpad width '0' := by
  have hNatAbs : (n : Int).natAbs = n := Int.natAbs_natCast n
  unfold formatInt
  rw [hNatAbs, if_neg (by omega)]
  rfl

/- There are only digits and a sign in print. -/
theorem not_mem_formatInt
    {c : Char}
    (hOther : c.isDigit = false)
    (hMinus : c ≠ '-')
    (width : Nat)
    (n : Int) :
    c ∉ formatInt width n := by
  have hPadded (w : Nat) :
      c ∉ zeroPadded w (Nat.toDigits 10 n.natAbs) :=
    FixedPoint.not_mem_leftpad_toDigits hOther n.natAbs w
  unfold formatInt
  dsimp only
  split
  · rw [List.mem_cons, not_or]
    exact ⟨hMinus, hPadded _⟩
  · exact hPadded _

theorem comma_not_mem_formatInt
    (width : Nat)
    (n : Int) :
    ',' ∉ formatInt width n :=
  not_mem_formatInt (by decide) (by decide) width n

theorem shownNat_leftpad (width n : Nat) :
    shownNat ((Nat.toDigits 10 n).leftpad width '0') =
      some n := by
  have hDigits :
      ((Nat.toDigits 10 n).leftpad width '0').all
        Char.isDigit = true := by
    rw [List.all_eq_true]
    intro c hc
    by_contra hOther
    exact
      FixedPoint.not_mem_leftpad_toDigits
        (Bool.eq_false_of_not_eq_true hOther) n width hc
  have hSome :
      (Nat.toDigits 10 n).leftpad width '0' ≠ [] := by
    intro hNone
    have hNil :=
      (List.append_eq_nil_iff.mp hNone).2
    exact Nat.toDigits_ne_nil hNil
  unfold shownNat
  rw [if_pos ⟨hSome, hDigits⟩, FixedPoint.ofDigitChars_leftpad]

theorem shownNat_formatInt (width n : Nat) :
    shownNat (formatInt width n) = some n := by
  rw [formatInt_natCast, shownNat_leftpad]

/- What is printed can be read back, at any width. -/
theorem shownInt_formatInt
    (width : Nat)
    (n : Int) :
    shownInt (formatInt width n) = some n := by
  have hMinus :
      '-' ∉ zeroPadded width (Nat.toDigits 10 n.natAbs) :=
    FixedPoint.not_mem_leftpad_toDigits (by decide)
      n.natAbs width
  have hRead (w : Nat) :
      shownNat (zeroPadded w (Nat.toDigits 10 n.natAbs)) =
        some n.natAbs :=
    shownNat_leftpad w n.natAbs
  unfold formatInt shownInt
  dsimp only
  split
  · next hNegative =>
      rw [if_pos List.head?_cons, List.tail_cons, hRead,
        Option.map_some]
      congr 1
      omega
  · next hNonneg =>
      have hHead :
          (zeroPadded width
            (Nat.toDigits 10 n.natAbs)).head? ≠ some '-' :=
        fun hHead => hMinus (List.mem_of_head? hHead)
      rw [if_neg hHead, hRead, Option.map_some]
      congr 1
      exact Int.natAbs_of_nonneg (by omega)

/- Nothing is shown by a field without a character. -/
theorem shownInt_nil : shownInt [] = none := by
  decide

end Nmea

end D2Common

------------------------------------------------------------
-- Checksums
------------------------------------------------------------

namespace D2Common

namespace Nmea

/- A sentence with room for its checksum is not cut. -/
theorem putChecksum_pNmea
    {sentence : Sentence}
    (hFits : sentence.length + 5 < nmeaSentenceMaxLength) :
    ∃ high low,
      (putChecksum sentence nmeaSentenceMaxLength).pNmea =
        sentence ++ ['*', high, low, '\r', '\n'] := by
  unfold putChecksum
  dsimp only
  rw [List.take_of_length_le]
  · exact ⟨_, _, rfl⟩
  · have hTail : sentence.tail.length = sentence.length - 1 :=
      List.length_tail
    have hMax : nmeaSentenceMaxLength = 200 := rfl
    simp only [List.length_cons, List.length_nil]
    omega

/- What is in front of it can be read back. -/
theorem bodyOf_putChecksum
    {sentence : Sentence}
    (hBody : '*' ∉ sentence)
    (hFits : sentence.length + 5 < nmeaSentenceMaxLength) :
    bodyOf (putChecksum sentence nmeaSentenceMaxLength).pNmea =
      sentence := by
  rcases putChecksum_pNmea hFits with ⟨high, low, hText⟩
  rw [hText]
  exact bodyOf_append hBody _

end Nmea

end D2Common
