import Mathlib.Data.List.Induction
import Mathlib.Data.List.Infix
import Mathlib.Order.MinMax
import QueryGroup.Markup.Writer
set_option autoImplicit false

/- The depth of a writer. Counting indents up and dedents down, without a floor, gives a balance
that may fall below zero; the depth is how far the balance stands above the least it has come to.
So a dedent at the outermost level is forgotten, and each line stands where the calls before it
put it, whatever was written. -/
namespace QueryGroup.Markup.Writer

/-- Indents less dedents. -/
def balance (steps : List Step) : Int := steps.count .indent - steps.count .dedent

/-- The least balance on the way, or zero if the balance never falls below it. -/
def lowest (steps : List Step) : Int := (steps.inits.map balance).foldr min 0

def Step.line? : Step → Option String
  | .line text => some text
  | .indent | .dedent => none

/-- The lines in the order of their calls, each with all the calls before it. -/
def lineCalls (steps : List Step) : List (List Step × String) :=
  (steps.inits.zip steps).filterMap fun call => call.2.line?.map (call.1, ·)

theorem balance_append (front back : List Step) :
    balance (front ++ back) = balance front + balance back := by
  simp only [balance, List.count_append]
  omega

@[simp] theorem balance_indent : balance [.indent] = 1 := rfl

@[simp] theorem balance_dedent : balance [.dedent] = -1 := rfl

@[simp] theorem balance_line (text : String) : balance [.line text] = 0 := by
  simp [balance]

theorem le_foldr_min_iff {bound : Int} {values : List Int} :
    bound ≤ values.foldr min 0 ↔ bound ≤ 0 ∧ ∀ value ∈ values, bound ≤ value := by
  induction values with
  | nil => simp
  | cons first rest ih =>
      rw [List.foldr_cons, le_min_iff, ih, List.forall_mem_cons]
      exact and_left_comm

/-- `lowest` is the greatest lower bound of the balances on the way, where the first is zero. -/
theorem le_lowest_iff {bound : Int} {steps : List Step} :
    bound ≤ lowest steps ↔ ∀ start, start <+: steps → bound ≤ balance start := by
  rw [lowest, le_foldr_min_iff, List.forall_mem_map]
  simp only [List.mem_inits]
  constructor
  · exact fun below => below.2
  · intro below
    have zero : balance [] = 0 := rfl
    exact ⟨zero ▸ below [] List.nil_prefix, below⟩

theorem lowest_le_balance (steps : List Step) : lowest steps ≤ balance steps :=
  le_lowest_iff.1 le_rfl steps List.prefix_rfl

theorem lowest_append_singleton (front : List Step) (last : Step) :
    lowest (front ++ [last]) = min (lowest front) (balance front + balance [last]) := by
  apply eq_of_forall_le_iff
  intro bound
  rw [le_min_iff, le_lowest_iff, le_lowest_iff, ← balance_append]
  simp only [List.prefix_concat_iff]
  constructor
  · intro below
    exact ⟨fun start before => below start (.inr before), below _ (.inl rfl)⟩
  · rintro ⟨before, whole⟩ start (rfl | inside)
    · exact whole
    · exact before start inside

theorem run_append_singleton (writer : Writer) (front : List Step) (last : Step) :
    writer.run (front ++ [last]) = (writer.run front).step last := by
  rw [run_append, run_cons, run_nil]

/-- The depth follows the balance from where the writer stood, and loses nothing below zero. -/
theorem depth_run (writer : Writer) (steps : List Step) :
    ((writer.run steps).depth : Int) =
      writer.depth + balance steps - min 0 (writer.depth + lowest steps) := by
  induction steps using List.reverseRecOn with
  | nil =>
      have start : balance [] = 0 ∧ lowest [] = 0 := ⟨rfl, rfl⟩
      rw [run_nil, start.1, start.2]
      omega
  | append_singleton front last ih =>
      have least := lowest_le_balance front
      rw [run_append_singleton, balance_append, lowest_append_singleton]
      cases last with
      | indent =>
          rw [step, depth_indent, balance_indent]
          omega
      | dedent =>
          rw [step, depth_dedent, balance_dedent]
          omega
      | line text =>
          rw [step, depth_line, balance_line]
          omega

theorem depth_run_new (steps : List Step) :
    ((({} : Writer).run steps).depth : Int) = balance steps - lowest steps := by
  have whole := depth_run {} steps
  have least : lowest steps ≤ 0 := le_lowest_iff.1 le_rfl [] List.nil_prefix
  simp only at whole
  omega

theorem zip_inits_append_singleton {α : Type} (front : List α) (last : α) :
    (front ++ [last]).inits.zip (front ++ [last]) = front.inits.zip front ++ [(front, last)] := by
  induction front with
  | nil => rfl
  | cons first rest ih =>
      simp only [List.cons_append, List.inits_cons, List.zip_cons_cons, List.zip_map_left, ih,
        List.map_append, List.map_cons, List.map_nil, Prod.map, id]

theorem lineCalls_append_singleton (front : List Step) (last : Step) :
    lineCalls (front ++ [last]) = lineCalls front ++ (last.line?.map (front, ·)).toList := by
  rw [lineCalls, zip_inits_append_singleton, List.filterMap_append, ← lineCalls]
  cases last <;> rfl

/-- The text in a new writer's buffer, line by line. -/
theorem buffer_run_new (steps : List Step) :
    (({} : Writer).run steps).buffer = String.join ((lineCalls steps).map fun call =>
      indentation (balance call.1 - lowest call.1).toNat ++ call.2 ++ "\n") := by
  induction steps using List.reverseRecOn with
  | nil => rfl
  | append_singleton front last ih =>
      have deep : (balance front - lowest front).toNat = (({} : Writer).run front).depth := by
        rw [← depth_run_new, Int.toNat_natCast]
      rw [run_append_singleton, lineCalls_append_singleton, List.map_append, String.join_append,
        ← ih]
      cases last with
      | indent => simp [step, Step.line?]
      | dedent => simp [step, Step.line?]
      | line text => simp [step, Step.line?, deep, String.append_assoc]

/-- What is in the buffer stays in front, and what comes behind it depends on the depth only. -/
theorem buffer_run (writer : Writer) (steps : List Step) :
    (writer.run steps).buffer =
      writer.buffer ++ (({ depth := writer.depth } : Writer).run steps).buffer := by
  induction steps using List.reverseRecOn with
  | nil => simp
  | append_singleton front last ih =>
      have same : (writer.run front).depth =
          (({ depth := writer.depth } : Writer).run front).depth := by
        have first := depth_run writer front
        have second := depth_run { depth := writer.depth } front
        simp only at second
        omega
      rw [run_append_singleton, run_append_singleton]
      cases last with
      | indent => exact ih
      | dedent => exact ih
      | line text => simp only [step, buffer_line, ih, same, String.append_assoc]

theorem dedent_eq_self_iff (writer : Writer) : writer.dedent = writer ↔ writer.depth = 0 := by
  rcases writer with ⟨buffer, depth⟩
  simp only [dedent, mk.injEq, true_and]
  omega

/-- A dedent makes no difference to what follows exactly if the balance falls with it below all
that went before. -/
theorem run_dedent_forgotten_iff (steps : List Step) :
    (∀ back, ({} : Writer).run (steps ++ .dedent :: back) = ({} : Writer).run (steps ++ back)) ↔
      ∀ start, start <+: steps → balance (steps ++ [.dedent]) < balance start := by
  have deep := depth_run_new steps
  have least := lowest_le_balance steps
  have below : (∀ start, start <+: steps → balance (steps ++ [.dedent]) < balance start) ↔
      balance steps ≤ lowest steps := by
    rw [le_lowest_iff, balance_append, balance_dedent]
    refine forall₂_congr fun start _ => ?_
    omega
  rw [below]
  constructor
  · intro forgotten
    have here := forgotten []
    rw [run_append, run_cons, run_nil, step, List.append_nil, dedent_eq_self_iff] at here
    omega
  · intro surplus back
    have flat : (({} : Writer).run steps).depth = 0 := by omega
    rw [run_append, run_cons, step, (dedent_eq_self_iff _).2 flat, ← run_append]

/-- Calls come back to every depth they start from exactly if they are balanced and never fall
below their start. -/
theorem depth_run_kept_iff (steps : List Step) :
    (∀ writer : Writer, (writer.run steps).depth = writer.depth) ↔
      balance steps = 0 ∧ ∀ start, start <+: steps → 0 ≤ balance start := by
  rw [← le_lowest_iff]
  constructor
  · intro kept
    -- From deep enough the floor is never met, so the balance is what is gained.
    have fromDeep := depth_run { depth := (lowest steps).natAbs } steps
    have fromNew := depth_run_new steps
    rw [kept] at fromDeep fromNew
    simp only [Int.natCast_zero] at fromDeep fromNew
    omega
  · rintro ⟨level, above⟩ writer
    have whole := depth_run writer steps
    omega

/-- Calls on a new writer. Each line is put behind twice as many spaces as the balance of the calls
before it stands above their least balance, or above zero if that is lower; and this is the depth
at the end. Later calls only append. A dedent below all earlier balances is forgotten, and no
other; balanced calls that never fall below their start, and no others, leave every depth as it
is. -/
theorem run_reflected (steps : List Step) :
    (({} : Writer).run steps).buffer = String.join ((lineCalls steps).map fun call =>
        indentation (balance call.1 - lowest call.1).toNat ++ call.2 ++ "\n") ∧
    ((({} : Writer).run steps).depth : Int) = balance steps - lowest steps ∧
    (∀ back, (({} : Writer).run (steps ++ back)).buffer = (({} : Writer).run steps).buffer ++
      (({ depth := (({} : Writer).run steps).depth } : Writer).run back).buffer) ∧
    ((∀ back, ({} : Writer).run (steps ++ .dedent :: back) = ({} : Writer).run (steps ++ back)) ↔
      ∀ start, start <+: steps → balance (steps ++ [.dedent]) < balance start) ∧
    ((∀ writer : Writer, (writer.run steps).depth = writer.depth) ↔
      balance steps = 0 ∧ ∀ start, start <+: steps → 0 ≤ balance start) := by
  refine ⟨buffer_run_new steps, depth_run_new steps, ?_, run_dedent_forgotten_iff steps,
    depth_run_kept_iff steps⟩
  intro back
  rw [run_append]
  exact buffer_run _ back

theorem run_reflected_surplusDedents :
    (({} : Writer).run [.dedent, .line "a", .indent, .line "b", .dedent, .line "c"]).buffer =
        "a\n  b\nc\n" ∧
      (∀ back, ({} : Writer).run (.dedent :: .dedent :: back) =
        ({} : Writer).run (.dedent :: back)) ∧
      ∀ writer : Writer, (writer.run [.indent, .line "b", .dedent]).depth = writer.depth := by
  obtain ⟨text, -, -, -, -⟩ :=
    run_reflected [.dedent, .line "a", .indent, .line "b", .dedent, .line "c"]
  obtain ⟨-, -, -, forgotten, -⟩ := run_reflected [.dedent]
  obtain ⟨-, -, -, -, kept⟩ := run_reflected [.indent, .line "b", .dedent]
  have falls : balance ([.dedent] ++ [.dedent]) + 1 ≤ lowest [.dedent] := by decide
  have stays : 0 ≤ lowest [.indent, .line "b", .dedent] := by decide
  refine ⟨?_, forgotten.2 (le_lowest_iff.1 falls), kept.2 ⟨rfl, le_lowest_iff.1 stays⟩⟩
  rw [text]
  decide +kernel

end QueryGroup.Markup.Writer
