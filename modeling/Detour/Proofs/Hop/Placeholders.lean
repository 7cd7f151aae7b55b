import Detour.Protocol.Bridge
import Detour.Proofs.Text.Turns
/-!
# Placeholders of command lines

The arguments of a helper and the text of its configuration are templates, with slots for the ports and
the server. `filled_iff_of_descriptor` says when filling the slots in one after the other comes to
filling them all in at once. There are two ways in which it does not: the name of a slot that stands
alone between two other ones (`Clashes`), and an address with percent signs of its own (`Spills`).
-/

namespace Detour

namespace Bridge

/-- What a slot stands for. In `mapping` mode the server is the local redirect. -/
def Slot.value (ports : Ports) (mode : Bridging) (server : Endpoint) : Slot → List Char
  | mappingPort => (toString ports.mapping).toList
  | socksPort => (toString ports.socks).toList
  | serverAddr => (if mode = .mapping then "127.0.0.1" else server.server).toList
  | serverPort =>
    (toString (if mode = .mapping then ports.mapping else server.serverPort.toNat)).toList

section

variable {ports : Ports} {mode : Bridging} {server : Endpoint} {t : Template}

theorem Slot.isNumber_value {k : Slot} (h : k ≠ .serverAddr) : IsNumber (k.value ports mode server) := by
  cases k with
  | serverAddr => exact absurd rfl h
  | _ => exact isNumber_toString _

theorem placeholders_eq_map : placeholders ports mode server =
    Slot.all.map fun k => (String.ofList k.mark, String.ofList (k.value ports mode server)) := by
  simp only [placeholders, Slot.all, Slot.value, List.map_cons, List.map_nil, String.ofList_toList]
  split <;> rfl

theorem substitute_written : substitute (placeholders ports mode server) t.written =
    String.ofList (fillIn (Slot.value ports mode server) (fill Slot.mark t.pieces)) := by
  rw [substitute, placeholders_eq_map, List.foldl_map]
  simp [fillIn, Template.written]

/-- What a template comes to where it is used. -/
theorem comesTo_substitute :
    t.ComesTo (Slot.value ports mode server) (substitute (placeholders ports mode server) t.written) := by
  rw [substitute_written]
  refine ⟨fun h => ?_, fun h => ?_⟩
  · rw [Template.filled, String.ofList_inj,
      fillIn_eq_iff_of_unclashing (fun _ => Slot.isNumber_value) t.plain (not_exists.1 h)]
  · rw [Template.filled, String.ofList_inj,
      fillIn_eq_iff_of_unmarked (fun _ => Slot.isNumber_value) t.plain h, Template.Clashes, not_exists]

end

/-- **What a helper is launched with.** For every custom core, mode and pair of ports, each argument and
a configuration that is a template come to that template with all slots filled in, unless names of
slots clash in it or the address spills. There are as many arguments as the command has, and a
configuration goes missing only if it is empty. -/
theorem filled_iff_of_descriptor {settings : Settings} {ports : Ports} {mode : Bridging} {c : Custom}
    {d : Descriptor} (h : descriptor settings ports mode (.custom c) = .ok d) (t : Template) :
    d.arguments.length = c.command.length ∧
    (∀ i : Nat, c.command[i]? = some t.written → ∃ text, d.arguments[i]? = some text ∧
      t.ComesTo (Slot.value ports mode c.toEndpoint) text) ∧
    (c.config.tree = .str t.written → (t.written = "" → d.config = none) ∧
      (t.written ≠ "" → ∃ text, d.config = some text ∧
        t.ComesTo (Slot.value ports mode c.toEndpoint) text)) := by
  simp only [descriptor] at h
  split at h
  · cases h
  · split at h
    · cases h
    · cases h
      refine ⟨List.length_map _, fun i hi => ?_, fun hconfig => ⟨fun hempty => ?_, fun hsome => ?_⟩⟩
      · exact ⟨_, by rw [List.getElem?_map, hi]; rfl, comesTo_substitute⟩
      · simp [configText, hconfig, hempty]
      · exact ⟨_, by simp [configText, hconfig, hsome], comesTo_substitute⟩

/-- A core that has a program and a command is launched. -/
theorem exists_descriptor {settings : Settings} {ports : Ports} {mode : Bridging} {c : Custom}
    (hprogram : program settings c.core ≠ "") (hcommand : c.command ≠ []) :
    ∃ d, descriptor settings ports mode (.custom c) = .ok d := by
  simp [descriptor, hprogram, hcommand]

/-- An option that names the address of the server. -/
def Setting.dialling : Template :=
  ⟨[.text "--server=", .slot .serverAddr], by simp [Piece.Plain]⟩

/-- A core whose server is named like the slot of its port. -/
def Setting.spilling : Custom :=
  { core := "naive", server := "%server_port%", serverPort := 443
    command := [Setting.dialling.written] }

theorem Setting.not_clashes_dialling : ¬ Setting.dialling.Clashes := by
  rintro ⟨k, h⟩
  cases k <;> simp [Setting.dialling, Encloses, nextSlot?] at h

/-- Its helper is told of another server, unless it dials the local redirect. -/
theorem filled_iff_of_descriptor_spilling :
    let settings : Settings := { extraCores := .ofList [("naive", "/usr/bin/naive")] }
    ∃ full mapped,
      descriptor settings ⟨30001, 30002⟩ .full (.custom Setting.spilling) = .ok full ∧
      full.arguments[0]? ≠ some "--server=%server_port%" ∧
      descriptor settings ⟨30001, 30002⟩ .mapping (.custom Setting.spilling) = .ok mapped ∧
      mapped.arguments[0]? = some "--server=127.0.0.1" := by
  intro settings
  have hlaunched (mode : Bridging) :
      ∃ d, descriptor settings ⟨30001, 30002⟩ mode (.custom Setting.spilling) = .ok d :=
    exists_descriptor (by decide) (by simp [Setting.spilling])
  obtain ⟨full, hfull⟩ := hlaunched .full
  obtain ⟨mapped, hmapped⟩ := hlaunched .mapping
  obtain ⟨text, htext, hspilled⟩ :=
    (filled_iff_of_descriptor hfull Setting.dialling).2.1 0 rfl
  obtain ⟨text', htext', hplain⟩ :=
    (filled_iff_of_descriptor hmapped Setting.dialling).2.1 0 rfl
  refine ⟨full, mapped, hfull, ?_, hmapped, ?_⟩
  · rw [htext]
    rintro ⟨⟩
    refine (hspilled.unclashing Setting.not_clashes_dialling).1 (by decide) ?_
    exact .inl ⟨rfl, by decide⟩
  · rw [htext', (hplain.unmarked (by decide)).2 Setting.not_clashes_dialling]
    decide

end Bridge

end Detour
