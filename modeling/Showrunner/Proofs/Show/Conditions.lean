import Showrunner.Proofs.Show.Reading
import Showrunner.Proofs.Variables.Enclosed

namespace Showrunner.Show

variable (s : Show) (text scene : String)

theorem expand_enclosed : s.expand ("(" ++ text ++ ")") scene =
    ({ (s.expand text scene).1 with text := "(" ++ (s.expand text scene).1.text ++ ")" },
      (s.expand text scene).2) := by
  unfold expand
  rw [Variables.expand_enclosed]
  rfl

def verdict (answer : Except EvalError String) : Bool :=
  match answer.toOption with
  | some value => Guard.isTruthy (Text.trim value)
  | none => false

theorem probe_eq (kind : Trigger.Kind) : (s.probe kind text scene).1 =
    ((s.expand text scene).1.isSafe &&
      verdict ((s.expand text scene).2.answer kind (s.expand text scene).1.text)) := by
  unfold probe verdict
  generalize s.expand text scene = p
  obtain ⟨e, u⟩ := p
  dsimp only
  cases e.isSafe with
  | false => rfl
  | true =>
    generalize u.answer kind e.text = answer
    cases answer <;> simp [Except.toOption]

variable {s text scene}

/-- What stands in parentheses behind `when` holds just if it would hold behind `while`. -/
theorem probe_enclosed (he : s.evaluator = Expression.evaluate)
    (hb : '\\' ∉ (s.expand text scene).1.text.toList)
    (hn : Expression.Nested (s.expand text scene).1.text.toList) :
    (s.probe .whenTrue ("(" ++ text ++ ")") scene).1 = (s.probe .whileTrue text scene).1 := by
  have hev : (s.expand text scene).2.evaluator = Expression.evaluate := he
  rw [probe_eq, probe_eq, expand_enclosed]
  have hwhen (x : String) : (s.expand text scene).2.answer .whenTrue x =
      Span.evaluate Expression.evaluate x := congrArg (Span.evaluate · x) hev
  have hwhile (x : String) : (s.expand text scene).2.answer .whileTrue x =
      Expression.evaluate x := congrArg (· x) hev
  dsimp only
  rw [hwhen, hwhile, Span.evaluate_enclosed _ hn hb]
  refine congrArg ((s.expand text scene).1.isSafe && ·) ?_
  obtain h | ⟨h, h'⟩ := Expression.evaluate_enclosed hn
  · rw [verdict, h, verdict]
  · rw [verdict, h, h']
    rfl

theorem probe_clock (kind : Trigger.Kind) : (s.probe kind text scene).2.clock = s.clock := by
  obtain ⟨_, _, _, h⟩ := AfterReading.probe s kind text scene
  rw [h]

/-- A trigger with a question fires on the answer, in every frame in which it is looked at. -/
theorem fired_updateTrigger {t : Trigger}
    (hc : t.condition = .whenTrue text ∨ t.condition = .whileTrue text) (input : Input) :
    (s.updateTrigger scene input t).1.fired =
      if t.isLive s.clock.elapsed then (s.probe t.kind text scene).1 else t.fired := by
  have hq : t.question? s.clock.elapsed = if t.isLive s.clock.elapsed then some text else none := by
    rcases hc with h | h <;> simp [Trigger.question?, h]
  rw [updateTrigger, hq]
  by_cases hl : t.isLive s.clock.elapsed
  · rcases hc with h | h <;> simp [Trigger.update, probe_clock, hl, h]
  · simp [Trigger.update, hl]

/-- A trigger for an expression in parentheses fires just if the trigger that lasts while the
expression holds would fire in its place. -/
theorem when_fires_as_while (he : s.evaluator = Expression.evaluate)
    (hb : '\\' ∉ (s.expand text scene).1.text.toList)
    (hn : Expression.Nested (s.expand text scene).1.text.toList) (input : Input) (t : Trigger) :
    (s.updateTrigger scene input { t with condition := .whenTrue ("(" ++ text ++ ")") }).1.fired =
      (s.updateTrigger scene input { t with condition := .whileTrue text }).1.fired := by
  rw [fired_updateTrigger (.inl rfl), fired_updateTrigger (.inr rfl)]
  have hp := probe_enclosed he hb hn
  exact if_congr Iff.rfl hp rfl

def countShow : Show :=
  (start (640, 480) 30 Expression.evaluate .still .empty).setVar "n" "7" topLevel

def countCondition : String := "($n - 1) * 2 > 10 and 'a' != \"b\""

theorem expand_countCondition :
    (countShow.expand countCondition topLevel).1.text = "(7 - 1) * 2 > 10 and 'a' != \"b\"" := by
  decide +kernel

theorem when_fires_as_while_count :
    let t := Trigger.ofCondition .onClick topLevel 0
    countShow.evaluator = Expression.evaluate ∧
      '\\' ∉ (countShow.expand countCondition topLevel).1.text.toList ∧
      Expression.Nested (countShow.expand countCondition topLevel).1.text.toList ∧
      (countShow.updateTrigger topLevel {}
        { t with condition := .whenTrue ("(" ++ countCondition ++ ")") }).1.fired =
        (countShow.updateTrigger topLevel {}
          { t with condition := .whileTrue countCondition }).1.fired ∧
      (countShow.updateTrigger topLevel {}
        { t with condition := .whileTrue countCondition }).1.fired := by
  have hb : '\\' ∉ (countShow.expand countCondition topLevel).1.text.toList := by
    rw [expand_countCondition]
    decide
  have hn : Expression.Nested (countShow.expand countCondition topLevel).1.text.toList := by
    have hl : Expression.literals "(7 - 1) * 2 > 10 and 'a' != \"b\"".toList = [['a'], ['b']] := by
      decide
    rw [expand_countCondition]
    exact ⟨by decide, by rw [hl]; simp [Expression.bracketOf?]⟩
  exact ⟨rfl, hb, hn, when_fires_as_while rfl hb hn {} _, by decide +kernel⟩

end Showrunner.Show
