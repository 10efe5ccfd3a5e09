import Monitor8080.Proofs.RunLaws
namespace Monitor8080

/-!
# Scripts side by side

If the commands of two scripts do the same in two sessions, of which one is the
other carried over, then so do the scripts. Carrying over may depend on what
holds of the sessions in between, and the runs that the commands start may be
handled in two ways.
-/

namespace Script

/-- A command that is no condition is executed, and the others after it unless it fails. -/
theorem execute_of_command
    {runner : Runner}
    {text : String}
    {rest : List String}
    {command : Command}
    (parsed : Command.parse text = .ok command)
    (notIf : ∀ condition, command = .ifTrue condition → False)
    (notElse : command = .orElse → False)
    (session : Session) :
    execute runner (text :: rest) session =
      match (Operation.execute runner command).run session with
      | (.ok _, session) => execute runner rest session
      | (.error .historyTooLong, session) => (.abandoned, session)
      | (.error error, session) => (.failed, session.print error.message) := by
  rw [execute, parsed]
  split
  · rename_i same
    cases same
  · rename_i condition same
    cases same
    exact (notIf condition rfl).elim
  · rename_i same
    cases same
    exact (notElse rfl).elim
  · rename_i same
    cases same
    rfl

/--
What the commands of one runner do in a session, those of another do in the
session carried over, as long as the session is one of those that commands keep
to.
-/
structure Carries
    (runner other : Runner)
    (carry : Session → Session)
    (keepsTo : Session → Prop) : Prop where
  evaluate :
    ∀ session text,
      (carry session).monitor.evaluate (carry session).machine text =
        session.monitor.evaluate session.machine text
  print : ∀ session line, (carry session).print line = carry (session.print line)
  execute :
    ∀ command session,
      keepsTo session →
        (Operation.execute other command).run (carry session) =
          (((Operation.execute runner command).run session).1,
            carry ((Operation.execute runner command).run session).2)
  keeps :
    ∀ command session,
      keepsTo session → keepsTo ((Operation.execute runner command).run session).2

/-- Scripts whose commands do the same do the same. -/
theorem execute_carried
    {runner other : Runner}
    {carry : Session → Session}
    {keepsTo : Session → Prop}
    (carries : Carries runner other carry keepsTo)
    (commands : List String)
    {session : Session}
    (kept : keepsTo session) :
    execute other commands (carry session) =
      ((execute runner commands session).1, carry (execute runner commands session).2) := by
  fun_induction execute runner commands session with
  | case1 session =>
      rw [execute]
  | case2 session text rest error notParsed =>
      rw [execute, notParsed]
      exact congrArg (Prod.mk _) (carries.print session _)
  | case3 session text rest condition parsed error notEvaluated =>
      rw [execute, parsed]
      simp only [carries.evaluate, notEvaluated, carries.print]
  | case4 session text rest condition parsed value evaluated holds inductionHypothesis =>
      rw [execute, parsed]
      simp only [carries.evaluate, evaluated, if_pos holds, inductionHypothesis kept]
  | case5 session text rest condition parsed value evaluated fails others found shorter
      inductionHypothesis =>
      rw [execute, parsed]
      simp only [carries.evaluate, evaluated, if_neg fails]
      split
      · rename_i foundToo
        rw [found] at foundToo
        cases foundToo
        exact inductionHypothesis kept
      · rename_i notFound
        rw [found] at notFound
        cases notFound
  | case6 session text rest condition parsed value evaluated fails notFound =>
      rw [execute, parsed]
      simp only [carries.evaluate, evaluated, if_neg fails]
      split
      · rename_i found
        rw [notFound] at found
        cases found
      · rfl
  | case7 session text rest parsed =>
      rw [execute, parsed]
  | case8 session text rest command notIf notElse parsed value after ran inductionHypothesis =>
      have keptThen := carries.keeps command session kept
      rw [ran] at keptThen
      rw [execute_of_command parsed notIf notElse, carries.execute command session kept, ran]
      exact inductionHypothesis keptThen
  | case9 session text rest command notIf notElse parsed after ran =>
      rw [execute_of_command parsed notIf notElse, carries.execute command session kept, ran]
  | case10 session text rest command notIf notElse parsed error after otherError ran =>
      rw [execute_of_command parsed notIf notElse, carries.execute command session kept, ran]
      simp only [carries.print]

end Script

end Monitor8080
