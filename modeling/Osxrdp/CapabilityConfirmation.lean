import Osxrdp.Gfx

/-! The version that `handle_capabilities_advertise` confirms, against the list
the client advertised. One scan of the list decides whether AVC420 is used;
two others pick the version, and neither of them looks at V10. -/
namespace Osxrdp.CapabilityConfirmation
open Gfx

/-- The PDUs that the handling of an advertisement adds to those pending. -/
def queued (gfx : GfxServer) (caps : List CapabilitySet) : List ServerPdu :=
  (gfx.handleCapabilitiesAdvertise caps).pending.drop gfx.pending.length

/-- The handling left the pipeline in use. -/
def UsesAvc420 (gfx : GfxServer) (caps : List CapabilitySet) : Prop :=
  (gfx.handleCapabilitiesAdvertise caps).state = .active ∧
    (gfx.handleCapabilitiesAdvertise caps).avc420Enabled = true

/-- The client advertised the version of `confirmed` in a set that permits AVC420. -/
def Permitted (caps : List CapabilitySet) (confirmed : CapabilitySet) : Prop :=
  ∃ advertised ∈ caps, advertised.version = confirmed.version ∧ advertised.permitsAvc420 = true

/-- A pipeline in use was confirmed at a version the client permits AVC420 on;
otherwise nothing was queued. -/
structure Sound (gfx : GfxServer) (caps : List CapabilitySet) : Prop where
  confirmed : UsesAvc420 gfx caps → (∃ confirmed, .capabilitiesConfirm confirmed ∈ queued gfx caps) ∧
    ∀ confirmed, .capabilitiesConfirm confirmed ∈ queued gfx caps → Permitted caps confirmed
  refused : ¬UsesAvc420 gfx caps → queued gfx caps = [] ∧
    (gfx.handleCapabilitiesAdvertise caps).avc420Enabled = false

/-- One V8.1 set of the list enables AVC420. -/
def EnabledOnV81 (caps : List CapabilitySet) : Prop :=
  ∃ flags, .v8_1 flags ∈ caps ∧
    CapabilitiesV81Flags.contains flags CapabilitiesV81Flags.avc420Enabled = true

section Confirmed
variable {caps : List CapabilitySet}

private theorem confirmedSet_of_v8_1 {flags : CapabilitiesV81Flags} (member : .v8_1 flags ∈ caps) :
    (confirmedSet caps).version = .v8_1 := by
  unfold confirmedSet
  split
  case isTrue => rfl
  case isFalse notFound =>
    rw [List.find?_isSome] at notFound
    exact absurd ⟨_, member, rfl⟩ notFound

/-- Without a V8.1 set the version confirmed is V8, advertised or not. -/
theorem confirmedSet_of_no_v8_1 (absent : ∀ flags, .v8_1 flags ∉ caps) :
    (confirmedSet caps).version = .v8 := by
  unfold confirmedSet
  split
  case isTrue found =>
    rw [List.find?_isSome] at found
    obtain ⟨set, member, isV81⟩ := found
    cases set with
    | v8_1 flags => exact absurd member (absent flags)
    | _ => cases isV81
  case isFalse =>
    split
    case h_1 best found =>
      have isV8 := List.find?_some found
      cases best with
      | v8 flags => rfl
      | _ => cases isV8
    case h_2 => rfl

/-- The version confirmed permits AVC420 exactly when a V8.1 set does: a set of
version 8 never does. -/
theorem permitted_confirmedSet_iff : Permitted caps (confirmedSet caps) ↔ EnabledOnV81 caps := by
  constructor
  · rintro ⟨advertised, member, sameVersion, permits⟩
    by_cases present : ∃ flags, .v8_1 flags ∈ caps
    · obtain ⟨flags, presentMember⟩ := present
      rw [confirmedSet_of_v8_1 presentMember] at sameVersion
      cases advertised with
      | v8_1 flags => exact ⟨flags, member, permits⟩
      | _ => cases sameVersion
    · rw [confirmedSet_of_no_v8_1 (not_exists.mp present)] at sameVersion
      cases advertised with
      | v8 flags => cases permits
      | _ => cases sameVersion
  · rintro ⟨flags, member, enabled⟩
    exact ⟨.v8_1 flags, member, (confirmedSet_of_v8_1 member).symm, enabled⟩

end Confirmed

section Handling
variable {gfx : GfxServer} {caps : List CapabilitySet}

private theorem queued_refused (refused : caps.any CapabilitySet.permitsAvc420 = false) :
    queued gfx caps = [] := by
  rw [queued, GfxServer.handleCapabilitiesAdvertise_refused refused]
  exact List.drop_length

private theorem queued_supported (supported : caps.any CapabilitySet.permitsAvc420 = true) :
    queued gfx caps = .capabilitiesConfirm (confirmedSet caps) :: gfx.surfacePdus := by
  rw [queued, GfxServer.handleCapabilitiesAdvertise_supported supported]
  exact List.drop_left

/-- AVC420 is used with a client that some set permits it for. -/
theorem usesAvc420_iff : UsesAvc420 gfx caps ↔ caps.any CapabilitySet.permitsAvc420 = true := by
  rw [UsesAvc420]
  cases supported : caps.any CapabilitySet.permitsAvc420 with
  | false => simp [GfxServer.handleCapabilitiesAdvertise_refused supported]
  | true => simp [GfxServer.handleCapabilitiesAdvertise_supported supported]

/-- One confirmation is queued, and no other PDU of the surface is one. -/
theorem confirm_mem_queued_iff (supported : caps.any CapabilitySet.permitsAvc420 = true)
    (confirmed : CapabilitySet) :
    .capabilitiesConfirm confirmed ∈ queued gfx caps ↔ confirmed = confirmedSet caps := by
  rw [queued_supported supported]
  simp [GfxServer.surfacePdus]

end Handling

/-- **Confirmation.** What is confirmed is what the client permits, for exactly
the lists that permit AVC420 nowhere or on V8.1. -/
theorem confirmation_sound_iff (gfx : GfxServer) (caps : List CapabilitySet) :
    Sound gfx caps ↔ (caps.any CapabilitySet.permitsAvc420 = true → EnabledOnV81 caps) := by
  constructor
  · intro sound supported
    have permitted := (sound.confirmed (usesAvc420_iff.mpr supported)).2 (confirmedSet caps)
      ((confirm_mem_queued_iff supported _).mpr rfl)
    exact permitted_confirmedSet_iff.mp permitted
  · intro enabled
    constructor
    · intro uses
      have supported := usesAvc420_iff.mp uses
      refine ⟨⟨confirmedSet caps, (confirm_mem_queued_iff supported _).mpr rfl⟩, ?_⟩
      intro confirmed member
      rw [(confirm_mem_queued_iff supported confirmed).mp member]
      exact permitted_confirmedSet_iff.mpr (enabled supported)
    · intro unused
      have refused := Bool.eq_false_iff.mpr (mt usesAvc420_iff.mpr unused)
      refine ⟨queued_refused refused, ?_⟩
      rw [GfxServer.handleCapabilitiesAdvertise_refused refused]

/-- A client of version 10 that leaves AVC enabled is confirmed at version 8. -/
theorem v10_client_is_confirmed_at_v8 : ¬Sound (.new 1920 1080) [.v10 0] := by
  intro sound
  obtain ⟨_, permitted⟩ := sound.confirmed (usesAvc420_iff.mpr (by decide))
  obtain ⟨advertised, member, sameVersion, _⟩ := permitted (.v8 0) (by decide)
  cases List.mem_singleton.mp member
  cases sameVersion

end Osxrdp.CapabilityConfirmation
