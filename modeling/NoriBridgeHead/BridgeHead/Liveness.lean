import NoriBridgeHead.BridgeHead.Availability
import NoriBridgeHead.BridgeHead.KeepingUp

open Foundation Foundation.Outcome Foundation.Session Foundation.LightClient Foundation.Transition

namespace NoriModel

variable {S : ConsensusSpec}

/-- The providers have gone on: whichever passes the validation reports finality beyond the slot. -/
def ConsensusHttpProxy.ReportsBeyond (C : Crypto) (position : FinalityChangeDetectorUpdate) (slot : UInt64)
    (proxy : ConsensusHttpProxy S) : Prop :=
  ∀ provider ∈ proxy.allProviders, ∀ validated, (ConsensusHttpProxy.validatedConsensus C proxy.config position.slot
    position.storeHash true provider).outcome = .ok validated → slot < validated.outputSlot

/-- The observer takes a proof whose input store collides with the store of the chain that the head stands at. -/
def System.StoresCollide (C : Crypto) (beacon : Beacon S) (system : System S)
    (event : SystemEvent (ConsensusHttpProxy S)) : Prop :=
  ∃ (message : ProofMessage) (run : Run C S), system.taken event = some message ∧ message.outputs = run.outputs ∧
    ChainCollision C beacon system.head run.inputs.store

end NoriModel

namespace NoriProof

open NoriModel

variable {C : Crypto} {S : ConsensusSpec} {beacon : Beacon S} {system next : System S} {token : Token S}
  {head position : FinalityChangeDetectorUpdate} {proxy : ConsensusHttpProxy S}

section Chain

variable (helios : beacon.Helios)
include helios

end Chain

section Round

theorem ReportsBeyond.window {slot : UInt64} {window : ProofInputsWithWindow S}
    (beyond : proxy.ReportsBeyond C position slot)
    (prepared : proxy.prepareConsensusMptProofInputs C position.slot position.storeHash position.queueCursor true =
      .ok window) : slot < window.expectedOutputSlot := by
  rcases prepared_validated prepared with ⟨provider, member, validated, ran, _, outputSlot⟩
  rw [outputSlot]
  exact beyond provider member validated ran

end Round

section Sample

open NoriModel.Sample

end Sample

end NoriProof
