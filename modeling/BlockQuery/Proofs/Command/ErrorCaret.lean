import BlockQuery.Proofs.Command.ShownQuery
import BlockQuery.Proofs.Query.ErrorPlaces

/-!
# The caret below a query

When a text is no query, the command `parse` prints its expression and, on the line
below, a caret at the position of the error.  The caret stands below a character of
the expression or right behind its end, and the characters from there on are what the
error is about.
-/

namespace BlockQuery.Command.ShowQuery

open Query

/-- The expression with a caret below the first character of its second part. -/
def caretLines (before here : List Char) : String :=
  "  " ++ String.ofList (before ++ here) ++ "\n  " ++ String.ofList (before.map fun _ => ' ') ++ "^"

theorem run_of_parse_error {m : Type → Type} [Monad m] [LawfulMonad m] {host : Host m}
    {context : Context} {invocation : Invocation} {arguments : List String} {format : Format}
    {source : String} {error : ParseError} {before here : List Char}
    (accepted : accepted? invocation arguments = some (format, source))
    (failed : parse source = .error error)
    (cut : expressionText source.toList = before ++ here)
    (position : error.position = before.length) :
    run host context invocation arguments = (do
      host.error s!"Invalid query: {error.message}"
      host.line .errors (caretLines before here)
      exit 1) := by
  have unread : preview host.clock source none = .error (.unreadable error) := by
    rw [preview, failed]
    rfl
  rw [run_of_accepted accepted]
  unfold showSource
  rw [unread]
  dsimp only
  rw [report, cut, position, caretLines, List.map_const']
  rfl

/-- Reading a text never gets past the end of its expression: every step ends or stops at a
position of it, and behind an expression that is a later one.  So the text is a query, or there is
an error at a position of the expression, and what stands there is what the error says; the
command shows this position. -/
theorem parse_errors_stand_in_expression (text : String) :
    (∀ (step : Step) (position : Nat), position ≤ (expressionText text.toList).length →
      step.StaysAt (expressionText text.toList) position) ∧
    ((∃ named, parse text = .ok named) ∨
      ∃ error before here, parse text = .error error ∧
        expressionText text.toList = before ++ here ∧ error.position = before.length ∧
        error.cause.FitsAt here ∧
        ∀ (m : Type → Type) [Monad m] [LawfulMonad m] (host : Host m) (context : Context)
          (invocation : Invocation) (arguments : List String) (format : Format),
          accepted? invocation arguments = some (format, text) →
          run host context invocation arguments = (do
            host.error s!"Invalid query: {error.message}"
            host.line .errors (caretLines before here)
            exit 1)) := by
  refine ⟨fun step position inside => step.staysAt inside, ?_⟩
  cases parsed : parse text with
  | ok named => exact .inl ⟨named, rfl⟩
  | error error =>
      obtain ⟨before, here, cut, position, fits⟩ := exists_place_of_parse parsed
      refine .inr ⟨error, before, here, rfl, cut, position, fits, ?_⟩
      intro m _ _ host context invocation arguments format accepted
      exact run_of_parse_error accepted parsed cut position

/-- A window without its second date. -/
def halfWindow : String := "\x7bbetween: [[a]]"

theorem expressionText_halfWindow : expressionText halfWindow.toList = halfWindow.toList := by
  decide

theorem parse_halfWindow : parse halfWindow = .error ⟨.expected '[' none, 15⟩ := by
  have read : readExpression halfWindow.toList = .error ⟨.expected '[' none, 0⟩ := by
    rw [← errorOf?_eq_some_iff, readExpression]
    decide +kernel
  have named : readNamed halfWindow.toList = .error ⟨.expected '[' none, 0⟩ := by
    rw [readNamed]
    change (readExpression halfWindow.toList >>= _) = _
    rw [read]
    rfl
  rw [parse, expressionText_halfWindow, named]
  rfl

/-- A host that keeps what is printed, without any files. -/
def writingHost : Host (StateM (List String)) where
  files := (Files.FileTree.system "").lift fun action => pure (action.run []).1
  around := quietHost.around
  clock := quietHost.clock
  isTerminal := false
  input := pure ""
  print _ text := modify (· ++ [text])
  page _ := pure true
  transport _ := { post := fun _ _ => pure (.failed ""), sleep := fun delay => pure delay.check }

/-- The missing date is shown behind the last character. -/
theorem parse_errors_stand_in_expression_halfWindow :
    Step.expression.StaysAt (expressionText halfWindow.toList) 0 ∧
      accepted? (.ofCommand "parse") [halfWindow] = some (.text, halfWindow) ∧
      run writingHost {} (.ofCommand "parse") [halfWindow] = (do
        writingHost.error "Invalid query: Expected '[' at position 15, found 'EOF'"
        writingHost.line .errors "  \x7bbetween: [[a]]\n                 ^"
        exit 1) := by
  have accepted : accepted? (.ofCommand "parse") [halfWindow] = some (.text, halfWindow) := by
    decide +kernel
  obtain ⟨steps, ⟨named, parsed⟩ | ⟨error, before, here, failed, cut, position, -, shown⟩⟩ :=
    parse_errors_stand_in_expression halfWindow
  · rw [parse_halfWindow] at parsed
    cases parsed
  · refine ⟨steps .expression 0 (Nat.zero_le _), accepted, ?_⟩
    rw [parse_halfWindow] at failed
    cases failed
    rw [expressionText_halfWindow] at cut
    obtain ⟨rfl, rfl⟩ : before = halfWindow.toList ∧ here = [] :=
      List.append_inj (cut.symm.trans (List.append_nil _).symm) position.symm
    have message : (⟨.expected '[' none, 15⟩ : ParseError).message =
        "Expected '[' at position 15, found 'EOF'" := by
      decide +kernel
    have caret : caretLines halfWindow.toList [] =
        "  \x7bbetween: [[a]]\n                 ^" := by
      decide +kernel
    rw [shown _ writingHost {} _ _ .text accepted, message, caret]
    rfl

end BlockQuery.Command.ShowQuery
