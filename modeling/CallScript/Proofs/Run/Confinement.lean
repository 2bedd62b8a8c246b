import CallScript.Proofs.Run.Lockstep
import CallScript.Proofs.Script.References

/-! # Variables that a script does not refer to

Two runs of one script with different variables, over channels that reply alike.  If the variables that the
lines refer to are the same in both, the runs ask for the same with every line (`actsAlike_binding`) and are
in lockstep to the end: neither the report nor what is written depends on any other variable, whatever the
server sends.

* `references_lastResult`: the latest result has no references, at any time.
* `unreferenced_variables_are_unseen`: what a run does depends only on the variables that its lines refer
  to. -/

namespace CallScript.Run

open Rpc

/-- The same runner with other variables. -/
def Runner.binding (r : Runner) (bindings : Mapping) : Runner := { r with bindings }

theorem actsAlike_binding {r : Runner} {lines : List String} {bindings bindings' : Mapping}
    (agree : ∀ name ∈ r.references lines, Fields.find? name bindings' = Fields.find? name bindings) :
    ActsAlike (r.binding bindings) (r.binding bindings') lines := by
  refine ⟨rfl, rfl, rfl, ?_⟩
  intro line member i parsed steps
  apply Runner.arguments_congr
  intro name named
  exact Context.find?_congr rfl (agree name (Runner.mem_references member parsed named))

theorem references_lastResult {σ : Type} (ch : Channel σ) (c : Client σ) (r : Runner) (lines : List String)
    (n : Nat) {m : Mapping} (last : (r.reached ch c lines n).1.context.lastResult = some m) :
    Value.fieldsReferences m = [] := by
  rw [(underway ch c r lines n).context_eq] at last
  obtain ⟨result, -, rfl⟩ := Option.map_eq_some_iff.mp last
  exact Context.references_resultMapping result

/-- What a run does depends only on those variables of its caller that its lines refer to.  A script with two
sets of variables that agree on these names, both in which are there and in what they are, over channels
that reply alike and from clients that have done the same: the runs write the same lines and have the same
report, but for the time that the steps took.  At no time is there a reference in the latest result, so that
no text from a server can name a variable. -/
theorem unreferenced_variables_are_unseen {σ τ : Type} {R : σ → τ → Prop} {ch : Channel σ} {ch' : Channel τ}
    (alike : RepliesAlike R ch ch') {c : Client σ} {d : Client τ} (related : c.Related R d) (r : Runner)
    (lines : List String) (bindings bindings' : Mapping)
    (agree : ∀ name ∈ r.references lines, Fields.find? name bindings' = Fields.find? name bindings) :
    let run := (r.binding bindings).runOn ch lines c
    let run' := (r.binding bindings').runOn ch' lines d
    run'.1.timeless = run.1.timeless ∧
      (∃ t t' : List Exchange,
        (r.binding bindings).runOn ch.recorded lines (c.recording []) = (run.1, run.2.recording t) ∧
        (r.binding bindings').runOn ch'.recorded lines (d.recording []) = (run'.1, run'.2.recording t') ∧
        writtenLines t' = writtenLines t) ∧
      ∀ n m, ((r.binding bindings).reached ch c lines n).1.context.lastResult = some m →
        Value.fieldsReferences m = [] := by
  intro run run'
  have alongside := (inStep alike (actsAlike_binding agree) rfl related lines.length).toAlongside
  refine ⟨alongside.report_eq, ⟨_, _, runOn_recorded .., runOn_recorded .., alongside.written_eq⟩, ?_⟩
  intro n m last
  exact references_lastResult ch c _ lines n last

/-- A server that sends the text of a reference, a line that sends it back, and a variable of that name that
the script does not refer to. -/
theorem a_text_like_a_reference_is_only_a_text :
    let ch := Rehearsed.channel
    let c := Client.start (⟨[.queue [.line
      "\x7b\"jsonrpc\":\"2.0\",\"id\":1,\"result\":\"$\x7bsecret\x7d\"\x7d"]], [], false, []⟩ : Rehearsed.State)
      ⟨1⟩ ⟨10⟩
    let r : Runner :=
      { options :=
          { requestTimeout := ⟨10⟩, startupGrace := ⟨0⟩, shutdownGrace := ⟨0⟩, handshake := none } }
    let lines := ["fetch()", "store(item=$\x7blast_result\x7d, who=$\x7bname\x7d)"]
    let bindings : Mapping := [("name", .text "n")]
    let bindings' : Mapping := [("name", .text "n"), ("secret", .text "s")]
    RepliesAlike Eq ch ch ∧ c.Related Eq c ∧
      (∀ name ∈ r.references lines, Fields.find? name bindings' = Fields.find? name bindings) ∧
      ((r.binding bindings).runOn ch lines c).1.steps.length = 2 ∧
      ((r.binding bindings').runOn ch lines c).1.timeless =
        ((r.binding bindings).runOn ch lines c).1.timeless := by
  intro ch c r lines bindings bindings'
  have related : c.Related Eq c := ⟨rfl, rfl, rfl, rfl⟩
  have names : r.references lines = ["last_result", "name"] := by decide +kernel
  have agree : ∀ name ∈ r.references lines, Fields.find? name bindings' = Fields.find? name bindings := by
    rw [names]
    simp [bindings, bindings', Fields.find?]
  obtain ⟨same, -⟩ :=
    unreferenced_variables_are_unseen (RepliesAlike.refl ch) related r lines bindings bindings' agree
  exact ⟨.refl ch, related, agree, by decide +kernel, same⟩

end CallScript.Run
