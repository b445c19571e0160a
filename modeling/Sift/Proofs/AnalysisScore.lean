import Mathlib
import Sift.Proofs.ComplexitySignals
import Sift.Performance.Analysis

/-!
# The scoring law of analyses

`analyze` scores a record from 100 down, one finding per category. A reader of an analysis sees
its recommendations and its score; for every record the two agree:

* the recommendations name each category at most once, in the order of `Category.all`, and a
  category is named exactly when its finding fires (`Category.fires`);
* the execution-time recommendation is critical above 5000 ms and high otherwise;
* the score is 100 less the points the recommendations cost by category and severity
  (`Recommendation.penalty`), floored at 0, so it lies in `[0, 100]`;
* the score is antitone: a record at least as bad on every measure scores at most as much, also
  where the floor at 0 hides some of the penalties.

Each finding function is read once (`Finding.Reads`: when it fires, what it costs, which category
it names); the list of findings then follows by one induction (`Finding.Reads.filterMap`).
-/

namespace Sift

/-- Whether the finding on a category fires for a record whose query has complexity report `c`. -/
def Category.fires (r : PerformanceRecord) (c : ComplexityReport) : Category → Bool
  | .executionTime => decide (r.executionTime > 2000)
  | .shards => decide (r.shards.failed > 0)
  | .resultSize => decide (r.resultCount > 10000)
  | .queryComplexity => decide (c.score > 7)
  | .timeout => r.timedOut

/-- The points a recommendation costs, by its category and severity: 30 for a critical execution
time and 20 for any other, 25 for failed shards, 10 for a large result, 15 for a complex query,
40 for a timeout. -/
def Recommendation.penalty (a : Recommendation) : Nat :=
  match a.category, a.severity with
  | .executionTime, .critical => 30
  | .executionTime, _ => 20
  | .shards, _ => 25
  | .resultSize, _ => 10
  | .queryComplexity, _ => 15
  | .timeout, _ => 40

/-- The points the execution time costs. -/
def timePoints (ms : Nat) : Nat := if ms > 5000 then 30 else if ms > 2000 then 20 else 0

theorem timePoints_mono {m n : Nat} (h : m ≤ n) : timePoints m ≤ timePoints n := by
  unfold timePoints
  split_ifs <;> omega

namespace Finding

/-- How a finding function reads: it gives a finding exactly when `fires`, the finding costs
`points`, names category `cat`, and costs what its recommendation says. -/
structure Reads (cat : Category) (fires : Bool) (points : Nat) (o : Option Finding) : Prop where
  isSome : o.isSome = fires
  points : (o.map (·.penalty)).getD 0 = points
  category : ∀ f ∈ o, f.advice.category = cat
  penalty : ∀ f ∈ o, f.penalty = f.advice.penalty

/-- A finding function that fires on `p`, with a fixed recommendation and the penalty it names. -/
theorem Reads.ite {p : Prop} [Decidable p] {cat : Category} {sev : Severity}
    {title description suggestion : String} {impact pen : Nat}
    (hpen : Recommendation.penalty ⟨cat, sev, title, description, suggestion, impact⟩ = pen) :
    Reads cat (decide p) (if p then pen else 0)
      (if p then some (.mk' cat sev title description suggestion impact pen) else none) := by
  by_cases hp : p
  · simp only [hp, if_true, decide_true]
    exact ⟨rfl, rfl, by simp [mk'], by simp [mk', hpen]⟩
  · simp only [hp, if_false, decide_false]
    exact ⟨rfl, rfl, by simp, by simp⟩

theorem timeFinding_severity (ms : Nat) :
    ∀ f ∈ timeFinding ms, f.advice.severity = if ms > 5000 then .critical else .high := by
  intro f hf
  unfold timeFinding at hf
  split_ifs at hf with h₅ h₂ <;> simp only [Option.mem_def, Option.some.injEq,
    reduceCtorEq] at hf <;> subst hf <;> simp [mk', h₅]

theorem timeFinding_reads (ms : Nat) :
    Reads .executionTime (decide (ms > 2000)) (timePoints ms) (timeFinding ms) := by
  unfold timeFinding timePoints
  by_cases h₅ : ms > 5000
  · have h₂ : ms > 2000 := by omega
    simp only [h₅, if_true, decide_eq_true h₂]
    exact ⟨rfl, rfl, by simp [mk'], by simp [mk', Recommendation.penalty]⟩
  · simp only [h₅, if_false]
    exact Reads.ite rfl

theorem shardFinding_reads (failed : Nat) :
    Reads .shards (decide (failed > 0)) (if failed > 0 then 25 else 0) (shardFinding failed) :=
  Reads.ite rfl

theorem sizeFinding_reads (count : Nat) :
    Reads .resultSize (decide (count > 10000)) (if count > 10000 then 10 else 0)
      (sizeFinding count) :=
  Reads.ite rfl

theorem complexityFinding_reads (c : ComplexityReport) :
    Reads .queryComplexity (decide (c.score > 7)) (if c.score > 7 then 15 else 0)
      (complexityFinding c) :=
  Reads.ite rfl

theorem timeoutFinding_reads (timedOut : Bool) :
    Reads .timeout timedOut (if timedOut then 40 else 0) (timeoutFinding timedOut) := by
  cases timedOut
  · exact ⟨rfl, rfl, by simp [timeoutFinding], by simp [timeoutFinding]⟩
  · exact ⟨rfl, rfl, by simp [timeoutFinding, mk'], by simp [timeoutFinding, mk',
      Recommendation.penalty]⟩

/-- The findings given by a list of finding functions, one per category in order: their
categories are the categories that fire, their points add up, and each costs what its
recommendation says. -/
theorem Reads.filterMap {cats : List Category} {fires : Category → Bool}
    {points : Category → Nat} {opts : List (Option Finding)}
    (h : List.Forall₂ (fun cat o => Reads cat (fires cat) (points cat) o) cats opts) :
    (opts.filterMap id).map (·.advice.category) = cats.filter fires ∧
    ((opts.filterMap id).map (·.penalty)).sum = (cats.map points).sum ∧
    (opts.filterMap id).map (·.penalty) = (opts.filterMap id).map (·.advice.penalty) := by
  induction h with
  | nil => simp
  | @cons cat o cats opts hread _ ih =>
    obtain ⟨hcat, hsum, hpen⟩ := ih
    cases o with
    | none =>
      have hfires : fires cat = false := by simpa using hread.isSome.symm
      have hpts : points cat = 0 := by simpa using hread.points.symm
      rw [List.filterMap_cons_none rfl, List.filter_cons_of_neg (by simp [hfires]), List.map_cons,
        List.sum_cons, hpts, Nat.zero_add]
      exact ⟨hcat, hsum, hpen⟩
    | some f =>
      have hfires : fires cat = true := by simpa using hread.isSome.symm
      have hpts : f.penalty = points cat := by simpa using hread.points
      rw [List.filterMap_cons_some (f := id) rfl, List.filter_cons_of_pos hfires]
      refine ⟨?_, ?_, ?_⟩
      · rw [List.map_cons, hcat, hread.category f rfl]
      · rw [List.map_cons, List.map_cons, List.sum_cons, List.sum_cons, hsum, hpts]
      · rw [List.map_cons, List.map_cons, hpen, hread.penalty f rfl]

end Finding

/-- The points the finding on a category costs a record whose query has complexity report `c`. -/
def Category.points (r : PerformanceRecord) (c : ComplexityReport) : Category → Nat
  | .executionTime => timePoints r.executionTime
  | .shards => if r.shards.failed > 0 then 25 else 0
  | .resultSize => if r.resultCount > 10000 then 10 else 0
  | .queryComplexity => if c.score > 7 then 15 else 0
  | .timeout => if r.timedOut then 40 else 0

/-- The findings of a record, read category by category. -/
theorem findings_read (r : PerformanceRecord) (c : ComplexityReport) :
    let fs := findings r c
    fs.map (·.advice.category) = Category.all.filter (Category.fires r c) ∧
    (fs.map (·.penalty)).sum =
      timePoints r.executionTime + (if r.shards.failed > 0 then 25 else 0) +
      (if r.resultCount > 10000 then 10 else 0) + (if c.score > 7 then 15 else 0) +
      (if r.timedOut then 40 else 0) ∧
    fs.map (·.penalty) = fs.map (·.advice.penalty) := by
  have hreads : List.Forall₂
      (fun cat o => Finding.Reads cat (Category.fires r c cat) (Category.points r c cat) o)
      Category.all [timeFinding r.executionTime, shardFinding r.shards.failed,
        sizeFinding r.resultCount, complexityFinding c, timeoutFinding r.timedOut] := by
    simp only [Category.all, List.forall₂_cons, List.Forall₂.nil, and_true]
    exact ⟨Finding.timeFinding_reads _, Finding.shardFinding_reads _,
      Finding.sizeFinding_reads _, Finding.complexityFinding_reads _,
      Finding.timeoutFinding_reads _⟩
  obtain ⟨hcat, hsum, hpen⟩ := Finding.Reads.filterMap hreads
  refine ⟨hcat, ?_, hpen⟩
  rw [findings, hsum]
  simp only [Category.all, Category.points, List.map_cons, List.map_nil, List.sum_cons,
    List.sum_nil]
  omega

/-- Only the execution-time finding names that category, and its severity is read off the time. -/
theorem recommendation_executionTime_severity (r : PerformanceRecord) (now : Time.Instant) :
    ∀ x ∈ (analyze r now).recommendations, x.category = .executionTime →
      x.severity = if r.executionTime > 5000 then .critical else .high := by
  intro x hx hxcat
  have hrecs : (analyze r now).recommendations =
      (findings r (analyzeComplexity r.query)).map (·.advice) := rfl
  rw [hrecs, List.mem_map] at hx
  obtain ⟨f, hf, rfl⟩ := hx
  simp only [findings, List.mem_filterMap, id, List.mem_cons, List.not_mem_nil, or_false] at hf
  obtain ⟨o, ho, hof⟩ := hf
  rcases ho with rfl | rfl | rfl | rfl | rfl
  · exact Finding.timeFinding_severity _ f hof
  · exact absurd ((Finding.shardFinding_reads _).category f hof ▸ hxcat) (by decide)
  · exact absurd ((Finding.sizeFinding_reads _).category f hof ▸ hxcat) (by decide)
  · exact absurd ((Finding.complexityFinding_reads _).category f hof ▸ hxcat) (by decide)
  · exact absurd ((Finding.timeoutFinding_reads _).category f hof ▸ hxcat) (by decide)

/-- The score is antitone in the record: at least as bad on every measure scores at most as much,
also where the floor at 0 hides some of the penalties. -/
theorem analyze_score_antitone {r r' : PerformanceRecord} (now now' : Time.Instant)
    (htime : r.executionTime ≤ r'.executionTime) (hshards : r.shards.failed ≤ r'.shards.failed)
    (hcount : r.resultCount ≤ r'.resultCount)
    (hcomplex : (analyzeComplexity r.query).score ≤ (analyzeComplexity r'.query).score)
    (htimeout : r.timedOut → r'.timedOut) : (analyze r' now').score ≤ (analyze r now).score := by
  obtain ⟨-, hsum, -⟩ := findings_read r (analyzeComplexity r.query)
  obtain ⟨-, hsum', -⟩ := findings_read r' (analyzeComplexity r'.query)
  have hscore : (analyze r now).score =
      100 - ((findings r (analyzeComplexity r.query)).map (·.penalty)).sum := rfl
  have hscore' : (analyze r' now').score =
      100 - ((findings r' (analyzeComplexity r'.query)).map (·.penalty)).sum := rfl
  -- every penalty grows with its measure, so the total does
  have h₁ := timePoints_mono htime
  have h₂ := points_le_points (p := r.shards.failed > 0) (q := r'.shards.failed > 0)
    (by omega) 25
  have h₃ := points_le_points (p := r.resultCount > 10000) (q := r'.resultCount > 10000)
    (by omega) 10
  have h₄ := points_le_points (p := (analyzeComplexity r.query).score > 7)
    (q := (analyzeComplexity r'.query).score > 7) (by omega) 15
  have h₅ := points_le_points (p := r.timedOut = true) (q := r'.timedOut = true) htimeout 40
  rw [hscore', hscore, hsum, hsum']
  omega

/-- The scoring law: for every record, the recommendations name each category at most once and
in table order, exactly the categories whose finding fires; the execution-time one is critical
above 5000 ms and high otherwise; the score is 100 less the points of the recommendations, floored
at 0, so it is at most 100; and a record at least as bad on execution time, failed shards, result
count, query complexity and timeout scores at most as much. -/
theorem analyze_scoring_law (r : PerformanceRecord) (now : Time.Instant) :
    let a := analyze r now
    a.recommendations.map (·.category) =
      Category.all.filter (Category.fires r (analyzeComplexity r.query)) ∧
    (∀ x ∈ a.recommendations, x.category = .executionTime →
      x.severity = if r.executionTime > 5000 then .critical else .high) ∧
    a.score = 100 - (a.recommendations.map Recommendation.penalty).sum ∧
    a.score ≤ 100 ∧
    ∀ (r' : PerformanceRecord) (now' : Time.Instant),
      r.executionTime ≤ r'.executionTime → r.shards.failed ≤ r'.shards.failed →
      r.resultCount ≤ r'.resultCount →
      (analyzeComplexity r.query).score ≤ (analyzeComplexity r'.query).score →
      (r.timedOut → r'.timedOut) → (analyze r' now').score ≤ a.score := by
  intro a
  obtain ⟨hcat, -, hpen⟩ := findings_read r (analyzeComplexity r.query)
  have hrecs : a.recommendations = (findings r (analyzeComplexity r.query)).map (·.advice) := rfl
  have hscore : a.score = 100 - ((findings r (analyzeComplexity r.query)).map (·.penalty)).sum :=
    rfl
  refine ⟨?_, recommendation_executionTime_severity r now, ?_, by omega, ?_⟩
  · rw [hrecs, List.map_map]
    exact hcat
  · rw [hscore, hrecs, List.map_map, hpen]
    rfl
  · intro r' now' htime hshards hcount hcomplex htimeout
    exact analyze_score_antitone now now' htime hshards hcount hcomplex htimeout

example : (analyze { executionTime := 6000, query := Json.matchAll } ⟨0, 0⟩).score = 70 := by
  decide

example : (analyze { executionTime := 6000, timedOut := true, query := Json.matchAll }
    ⟨0, 0⟩).score = 30 := by
  decide

/-- A query that ran 2500 ms scores at least as much as one that ran 6000 ms and timed out. -/
theorem analyze_scoring_law_slower_timed_out :
    let r : PerformanceRecord := { executionTime := 2500, query := Json.matchAll }
    let r' : PerformanceRecord := { executionTime := 6000, timedOut := true, query := Json.matchAll }
    r.executionTime ≤ r'.executionTime ∧ r.shards.failed ≤ r'.shards.failed ∧
    r.resultCount ≤ r'.resultCount ∧
    (analyzeComplexity r.query).score ≤ (analyzeComplexity r'.query).score ∧
    (r.timedOut → r'.timedOut) ∧
    (analyze r' ⟨0, 0⟩).score ≤ (analyze r ⟨0, 0⟩).score := by
  intro r r'
  have hd : r.executionTime ≤ r'.executionTime := by decide
  have hs : r.shards.failed ≤ r'.shards.failed := by decide
  have hc : r.resultCount ≤ r'.resultCount := by decide
  have hq : (analyzeComplexity r.query).score ≤ (analyzeComplexity r'.query).score := by decide
  have ht : r.timedOut → r'.timedOut := by decide
  exact ⟨hd, hs, hc, hq, ht, (analyze_scoring_law r ⟨0, 0⟩).2.2.2.2 r' ⟨0, 0⟩ hd hs hc hq ht⟩

end Sift
