import Parley.Retry.Jitter

/-!
Contract: random delays that a seed determines keep to their bounds.

A delay is a whole number of milliseconds below its bound, whatever is left of
the count of milliseconds of the bound once it is taken modulo `2 ^ 64`. The first
word that is not passed over decides it. Where nothing is left of the count,
nothing is drawn. So calls with bounds of less than a millisecond may stand
between others, and the delays of those remain the same.

Owns: `Duration.reachesMilli`, `Generator.word`, `Draw`, `Generator.draws`, and
the bounds of `Generator.delay`.
-/

namespace Parley.Time.Duration

/-- Whether a span is of a millisecond or more. -/
def reachesMilli (span : Duration) : Bool :=
  perMilli ≤ span.nanoseconds

theorem toMillis_of_not_reachesMilli {span : Duration}
    (short : span.reachesMilli = false) : span.toMillis = 0 :=
  Nat.div_eq_of_lt (Nat.not_le.mp (of_decide_eq_false short))

/-- Fewer milliseconds than a span holds are shorter than the span. -/
theorem ofMillis_lt {span : Duration} {count : Nat}
    (fewer : count < span.toMillis) :
    (ofMillis count).nanoseconds < span.nanoseconds := by
  have oneMore : (count + 1) * perMilli ≤ span.nanoseconds :=
    (Nat.le_div_iff_mul_le (by decide)).mp fewer
  calc count * perMilli
    _ < count * perMilli + perMilli := Nat.lt_add_of_pos_right (by decide)
    _ = (count + 1) * perMilli := (Nat.succ_mul count perMilli).symm
    _ ≤ span.nanoseconds := oneMore

end Parley.Time.Duration

namespace Parley.Retry

open Parley.Time (Duration)

/-- A delay, and the bound that it was drawn for. -/
structure Draw where
  bound : Duration
  delay : Duration

namespace Generator

/-! ## One number -/

/-- The generator behind a number of words. -/
def behind : Nat → Generator → Generator
  | 0, generator => generator
  | count + 1, generator => behind count generator.next.2

/-- The word that is drawn behind a number of others. -/
def word (index : Nat) (generator : Generator) : UInt64 :=
  (generator.behind index).next.1

/-- Whether a word is not passed over for a number below a bound. -/
def Accepts (bound : Nat) (word : UInt64) : Prop :=
  word.toNat * bound % UInt64.size ≤ acceptedZone bound

instance (bound : Nat) (word : UInt64) : Decidable (Accepts bound word) :=
  inferInstanceAs (Decidable (_ ≤ _))

theorem below_succ (bound tries : Nat) (generator : Generator) :
    below bound (tries + 1) generator =
      if Accepts bound generator.next.1 then
        (generator.next.1.toNat * bound / UInt64.size, generator.next.2)
      else below bound tries generator.next.2 :=
  rfl

/-- A number is made of the first word that is not passed over, and no later one
is drawn. -/
theorem below_of_words (bound tries : Nat) (generator : Generator) :
    ∃ passed ≤ tries,
      (∀ index < passed, ¬ Accepts bound (generator.word index)) ∧
        (passed < tries →
          Accepts bound (generator.word passed) ∧
            below bound tries generator =
              ((generator.word passed).toNat * bound / UInt64.size,
                generator.behind (passed + 1))) := by
  induction tries generalizing generator with
  | zero => exact ⟨0, Nat.le_refl 0, nofun, nofun⟩
  | succ tries inductionHypothesis =>
      by_cases accepted : Accepts bound generator.next.1
      · exact ⟨0, Nat.zero_le _, nofun,
          fun _ => ⟨accepted, if_pos accepted⟩⟩
      · obtain ⟨passed, few, rejected, taken⟩ :=
          inductionHypothesis generator.next.2
        refine ⟨passed + 1, Nat.succ_le_succ few, ?_, fun fewer => ?_⟩
        · intro index less
          cases index with
          | zero => exact accepted
          | succ index => exact rejected index (Nat.lt_of_succ_lt_succ less)
        · rw [below_succ, if_neg accepted]
          exact taken (Nat.lt_of_succ_lt_succ fewer)

/-- The high half of the product of a bound and a word is below the bound. -/
theorem below_lt {bound : Nat} (positive : 0 < bound) (tries : Nat)
    (generator : Generator) : (below bound tries generator).1 < bound := by
  induction tries generalizing generator with
  | zero => exact positive
  | succ tries inductionHypothesis =>
      rw [below_succ]
      split
      · exact Nat.div_lt_of_lt_mul
          (Nat.mul_lt_mul_of_pos_right (UInt64.toNat_lt_size _) positive)
      · exact inductionHypothesis _

/-! ## One delay -/

section Delay

variable {bound : Duration} (generator : Generator)

/-- Nothing is drawn where no milliseconds are counted. -/
theorem delay_of_uncounted (uncounted : bound.toMillis % UInt64.size = 0) :
    generator.delay bound = (.zero, generator) :=
  if_pos uncounted

theorem delay_of_counted (counted : bound.toMillis % UInt64.size ≠ 0) :
    generator.delay bound =
      (.ofMillis (below (bound.toMillis % UInt64.size) tries generator).1,
        (below (bound.toMillis % UInt64.size) tries generator).2) :=
  if_neg counted

/-- A delay counts as many milliseconds as the first word that is not passed over
makes, and the generator is left behind that word. -/
theorem delay_of_words (counted : bound.toMillis % UInt64.size ≠ 0) :
    let count := bound.toMillis % UInt64.size
    ∃ passed ≤ tries,
      (∀ index < passed, ¬ Accepts count (generator.word index)) ∧
        (passed < tries →
          Accepts count (generator.word passed) ∧
            generator.delay bound =
              (.ofMillis ((generator.word passed).toNat * count / UInt64.size),
                generator.behind (passed + 1))) := by
  intro count
  obtain ⟨passed, few, rejected, taken⟩ :=
    below_of_words count tries generator
  refine ⟨passed, few, rejected, fun fewer => ?_⟩
  obtain ⟨accepted, number⟩ := taken fewer
  refine ⟨accepted, ?_⟩
  rw [generator.delay_of_counted counted, number]

private theorem delay_whole (bound : Duration) :
    ∃ millis, (generator.delay bound).1 = .ofMillis millis := by
  by_cases uncounted : bound.toMillis % UInt64.size = 0
  · refine ⟨0, ?_⟩
    rw [generator.delay_of_uncounted uncounted]
    rfl
  · exact ⟨_, congrArg Prod.fst (generator.delay_of_counted uncounted)⟩

private theorem delay_lt (positive : 0 < bound.nanoseconds) :
    (generator.delay bound).1.nanoseconds < bound.nanoseconds := by
  by_cases uncounted : bound.toMillis % UInt64.size = 0
  · rw [generator.delay_of_uncounted uncounted]
    exact positive
  · have few := below_lt (Nat.pos_of_ne_zero uncounted) tries generator
    rw [generator.delay_of_counted uncounted]
    -- what is left of the count by the modulus is no more than the count
    exact Duration.ofMillis_lt
      (Nat.lt_of_lt_of_le few (Nat.mod_le _ UInt64.size))

theorem delay_of_short (short : bound.reachesMilli = false) :
    generator.delay bound = (.zero, generator) := by
  apply delay_of_uncounted
  rw [Duration.toMillis_of_not_reachesMilli short, Nat.zero_mod]

end Delay

/-! ## Many delays -/

/-- The delays of one call after the other, and the generator that they leave. -/
def draws : List Duration → Generator → List Draw × Generator
  | [], generator => ([], generator)
  | bound :: bounds, generator =>
      let (delay, drawn) := generator.delay bound
      let (later, last) := draws bounds drawn
      (⟨bound, delay⟩ :: later, last)

theorem draws_cons (bound : Duration) (bounds : List Duration)
    (generator : Generator) :
    generator.draws (bound :: bounds) =
      (⟨bound, (generator.delay bound).1⟩ ::
          ((generator.delay bound).2.draws bounds).1,
        ((generator.delay bound).2.draws bounds).2) :=
  rfl

/-- A call with a short bound waits for no time and is not noticed by the later
ones. -/
theorem draws_cons_of_short {bound : Duration}
    (short : bound.reachesMilli = false) (bounds : List Duration)
    (generator : Generator) :
    generator.draws (bound :: bounds) =
      (⟨bound, .zero⟩ :: (generator.draws bounds).1,
        (generator.draws bounds).2) := by
  rw [draws_cons, generator.delay_of_short short]

/-- The calls with other bounds draw what they draw without those with short
ones. -/
theorem draws_without_short (bounds : List Duration) (generator : Generator) :
    generator.draws (bounds.filter Duration.reachesMilli) =
      ((generator.draws bounds).1.filter (·.bound.reachesMilli),
        (generator.draws bounds).2) := by
  induction bounds generalizing generator with
  | nil => rfl
  | cons bound bounds inductionHypothesis =>
      cases reaches : bound.reachesMilli with
      | false =>
          simp only [List.filter_cons, reaches, draws_cons_of_short,
            inductionHypothesis, Bool.false_eq_true, if_false]
      | true =>
          simp only [List.filter_cons, reaches, draws_cons,
            inductionHypothesis, if_true]

/-- Each delay is drawn by the generator as the calls before it left it. -/
theorem drawn_of_mem_draws {bounds : List Duration} {generator : Generator}
    {draw : Draw} (member : draw ∈ (generator.draws bounds).1) :
    ∃ before : Generator, draw.delay = (before.delay draw.bound).1 := by
  induction bounds generalizing generator with
  | nil => exact nomatch member
  | cons bound bounds inductionHypothesis =>
      rw [draws_cons] at member
      rcases List.mem_cons.mp member with rfl | later
      · exact ⟨generator, rfl⟩
      · exact inductionHypothesis later

/-- Every delay is a whole number of milliseconds, below its bound or none where
the bound is none. A bound without counted milliseconds leaves the generator as it
is; for another one the first word that is not passed over decides. So two
sequences of calls that differ in short bounds only draw the same delays for the
other bounds; for the short ones there is no delay. -/
theorem delays_keep_to_bounds (generator : Generator) :
    (∀ bound,
      let count := bound.toMillis % UInt64.size
      (∃ millis, (generator.delay bound).1 = .ofMillis millis) ∧
        (0 < bound.nanoseconds →
          (generator.delay bound).1.nanoseconds < bound.nanoseconds) ∧
        (bound = .zero → (generator.delay bound).1 = .zero) ∧
        (count = 0 → (generator.delay bound).2 = generator) ∧
        (count ≠ 0 → ∃ passed ≤ tries,
          (∀ index < passed, ¬ Accepts count (generator.word index)) ∧
            (passed < tries →
              Accepts count (generator.word passed) ∧
                generator.delay bound =
                  (.ofMillis
                      ((generator.word passed).toNat * count / UInt64.size),
                    generator.behind (passed + 1))))) ∧
    (∀ bounds, ∀ draw ∈ (generator.draws bounds).1,
      draw.bound.reachesMilli = false → draw.delay = .zero) ∧
    ∀ bounds others : List Duration,
      bounds.filter Duration.reachesMilli =
          others.filter Duration.reachesMilli →
        (generator.draws bounds).1.filter (·.bound.reachesMilli) =
            (generator.draws others).1.filter (·.bound.reachesMilli) ∧
          (generator.draws bounds).2 = (generator.draws others).2 := by
  refine ⟨fun bound => ⟨generator.delay_whole bound, generator.delay_lt,
    ?_, ?_, generator.delay_of_words⟩, ?_, ?_⟩
  · rintro rfl
    exact congrArg Prod.fst (generator.delay_of_short rfl)
  · intro uncounted
    exact congrArg Prod.snd (generator.delay_of_uncounted uncounted)
  · intro bounds draw member short
    obtain ⟨before, drawn⟩ := drawn_of_mem_draws member
    rw [drawn, before.delay_of_short short]
  · intro bounds others alike
    have drawn := draws_without_short bounds generator
    rw [alike, draws_without_short others generator] at drawn
    exact ⟨(Prod.mk.inj drawn).1.symm, (Prod.mk.inj drawn).2.symm⟩

/-- Five seconds, and so many milliseconds that three seconds are left of their
count. -/
def plainBounds : List Duration :=
  [.ofMillis 5000, .ofMillis (UInt64.size + 3000)]

/-- The same with a bound just short of a millisecond ahead of them, and none
between them. -/
def crowdedBounds : List Duration :=
  [⟨999999⟩, .ofMillis 5000, .zero, .ofMillis (UInt64.size + 3000)]

example : ((Generator.ofSeed 0).draws crowdedBounds).1.map (·.delay) =
    [.zero, .ofMillis 3655, .zero, .ofMillis 2320] := by
  decide +kernel

/-- A bound whose count is cut is kept to, with a delay that the first word makes,
and short bounds are passed over. -/
theorem crowdedBounds_drawn_alike :
    let generator := Generator.ofSeed 0
    let cut := Duration.ofMillis (UInt64.size + 3000)
    (generator.delay cut).1.nanoseconds < cut.nanoseconds ∧
      generator.delay cut =
        (.ofMillis ((generator.word 0).toNat * 3000 / UInt64.size),
          generator.behind 1) ∧
      (generator.draws crowdedBounds).1.filter (·.bound.reachesMilli) =
          (generator.draws plainBounds).1.filter (·.bound.reachesMilli) ∧
        (generator.draws crowdedBounds).2 =
          (generator.draws plainBounds).2 := by
  intro generator cut
  obtain ⟨single, _, many⟩ := delays_keep_to_bounds generator
  obtain ⟨_, shorter, _, _, words⟩ := single cut
  have counted : cut.toMillis % UInt64.size = 3000 := by decide
  simp only [counted] at words
  obtain ⟨passed, _, rejected, taken⟩ := words (by decide)
  have isFirst : passed = 0 := by
    refine Nat.eq_zero_of_not_pos fun later => rejected 0 later ?_
    decide +kernel
  subst isFirst
  have alike : crowdedBounds.filter Duration.reachesMilli =
      plainBounds.filter Duration.reachesMilli := by decide
  exact ⟨shorter (by decide), (taken (by decide)).2, many _ _ alike⟩

end Generator

end Parley.Retry
