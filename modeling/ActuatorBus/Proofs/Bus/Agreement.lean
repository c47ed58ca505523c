import ActuatorBus.Proofs.Bus.Asking
import ActuatorBus.Proofs.Response

/-!
# Exchanges that agree

Two buses, which may be over different links, agree in an exchange if they
agree in what it is made of. What it means for their states to be related is
left open.
-/

namespace ActuatorBus.Bus

variable {σ τ : Type} {link : Link σ} {link' : Link τ}
  {related : Bus σ → Bus τ → Prop} {bus : Bus σ} {bus' : Bus τ}

theorem agree_readPacket {deadline deadline' : Double}
    (patienceEq : link'.patience bus'.line = link.patience bus.line)
    (steps : ∀ one two, related one two →
      Outcome.Agree related ((readStep link deadline).run one)
        ((readStep link' deadline').run two))
    (start : related bus bus') :
    Outcome.Agree related ((readPacket link deadline).run bus)
      ((readPacket link' deadline').run bus') := by
  apply Act.agree_get
  rw [patienceEq]
  exact Act.agree_untilSome steps _ bus bus' start

/-- Replies agree if the packets do: judging a packet takes no look at a
bus. -/
theorem agree_readResponse {expected : Value} (expectedId : Value)
    (timeoutEq : bus'.responseTimeout expected = bus.responseTimeout expected)
    (packets : ∀ timeout,
      Outcome.Agree related
        ((readPacket link (link.deadline bus.line timeout)).run bus)
        ((readPacket link' (link'.deadline bus'.line timeout)).run bus'))
    (start : related bus bus') :
    Outcome.Agree related ((readResponse link expected expectedId).run bus)
      ((readResponse link' expected expectedId).run bus') := by
  apply Act.agree_get
  rw [timeoutEq]
  apply Act.agree_bind (Act.agree_ofExcept _ start)
  intro timeout _ _
  apply Act.agree_bind (packets timeout)
  intro packet _ received
  obtain ⟨notes, judged⟩ :=
    Response.ofPacket_run (σ := Bus σ) packet expectedId
  obtain ⟨notes', judged'⟩ :=
    Response.ofPacket_run (σ := Bus τ) packet expectedId
  rw [judged, judged']
  exact ⟨rfl, received⟩

/-- What follows the instruction of an operation. -/
theorem agree_conclude (operation : Operation) {expected motorId : Value}
    (replies : Outcome.Agree related
      ((readResponse link expected motorId).run bus)
      ((readResponse link' expected motorId).run bus'))
    (start : related bus bus') :
    let last {ρ : Type} (link : Link ρ) : Act (Bus ρ) (Option Response) :=
      if operation.awaitsReply then do
        let response ← readResponse link expected motorId
        return some (← Act.ofExcept (operation.conclude response))
      else return none
    Outcome.Agree related ((last link).run bus) ((last link').run bus') := by
  intro last
  by_cases awaits : operation.awaitsReply = true
  · simp only [last, if_pos awaits]
    apply Act.agree_bind replies
    intro response _ received
    apply Act.agree_bind (Act.agree_ofExcept _ received)
    intro concluded _ done
    exact Act.agree_pure (some concluded) done
  · simp only [last, if_neg awaits]
    exact Act.agree_pure none start

theorem agree_perform {operation : Operation} {motorId : Value}
    {asked : Except Fault Request}
    (asks : operation.asked = some (motorId, asked))
    (sends : ∀ request, asked = .ok request →
      Outcome.Agree related
        ((writePacket link motorId request.code
          (.integer request.parameterCount) request.fill).run bus)
        ((writePacket link' motorId request.code
          (.integer request.parameterCount) request.fill).run bus'))
    (replies : ∀ expected one two, related one two →
      Outcome.Agree related ((readResponse link expected motorId).run one)
        ((readResponse link' expected motorId).run two))
    (start : related bus bus') :
    Outcome.Agree related ((perform link operation).run bus)
      ((perform link' operation).run bus') := by
  rw [perform_eq link asks, perform_eq link' asks]
  apply Act.agree_bind (Act.agree_ofExcept asked start)
  intro request made _
  apply Act.agree_bind (sends request made)
  intro _ _ sent
  exact agree_conclude operation (replies _ _ _ sent) sent

end ActuatorBus.Bus
