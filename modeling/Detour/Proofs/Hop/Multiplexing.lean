import Detour.Proofs.Hop.Compiled
/-!
# Multiplexing

Whether the outbound of a profile is multiplexed is settled by what the profile says for itself, then
by what its protocol, its stream and the settings allow, and by its flow at all events.
`multiplexed_iff_permitted` states the outcome. A profile that insists on being multiplexed is asked
for nothing but its flow, not even for a protocol that multiplexing is made for.
-/

namespace Detour

/-- The protocols that multiplexing is made for. -/
def Protocol.IsMultiplexable (p : Protocol) : Prop :=
  (∃ v, p = .vmess v) ∨ (∃ t, p = .trojan t) ∨ (∃ v, p = .vless v) ∨ ∃ s, p = .shadowsocks s

/-- A stream that carries several connections by itself. -/
def Stream.CarriesSeveral (s : Stream) : Prop :=
  s.network = "grpc" ∨ s.network = "quic" ∨
    s.network = "http" ∧ (s.security = "tls" ∨ s.security = "reality")

namespace Profile

variable {p : Profile} {mux : MuxSettings}

/-- A profile that does not say otherwise may be multiplexed. -/
structure Suits (mux : MuxSettings) (p : Profile) : Prop where
  protocol : p.protocol.IsMultiplexable
  stream : ∀ s, p.protocol.stream? = some s → ¬ s.CarriesSeveral
  concurrency : 0 < mux.concurrency
  wanted : mux.defaultOn = true ∨ p.enableBrutal = true

/-- A profile has no flow, which takes the place of multiplexing. -/
def Flowless (p : Profile) : Prop :=
  ∀ v, p.protocol = .vless v → v.flow = ""

theorem canMultiplex_iff {q : Protocol} : canMultiplex q = true ↔ q.IsMultiplexable := by
  cases q <;> simp [canMultiplex, Protocol.IsMultiplexable]

theorem streamMultiplexes_iff {q : Protocol} :
    streamMultiplexes q = true ↔ ∃ s, q.stream? = some s ∧ s.CarriesSeveral := by
  unfold streamMultiplexes
  cases q.stream? with
  | none => simp
  | some s => simp [Stream.CarriesSeveral, Stream.isTls, or_assoc]

theorem hasFlow_eq_false_iff : hasFlow p.protocol = false ↔ p.Flowless := by
  unfold Flowless
  cases p.protocol <;> simp [hasFlow]

theorem suits_iff : (canMultiplex p.protocol && 0 < mux.concurrency &&
    !streamMultiplexes p.protocol && (mux.defaultOn || p.enableBrutal)) = true ↔ p.Suits mux := by
  simp only [Bool.and_eq_true, Bool.or_eq_true, Bool.not_eq_true', decide_eq_true_eq,
    canMultiplex_iff, ← Bool.not_eq_true (streamMultiplexes _), streamMultiplexes_iff]
  constructor
  · rintro ⟨⟨⟨hprotocol, hconcurrency⟩, hstream⟩, hwanted⟩
    exact ⟨hprotocol, fun s hs hseveral => hstream ⟨s, hs, hseveral⟩, hconcurrency, hwanted⟩
  · rintro ⟨hprotocol, hstream, hconcurrency, hwanted⟩
    exact ⟨⟨⟨hprotocol, hconcurrency⟩, fun ⟨s, hs, hseveral⟩ => hstream s hs hseveral⟩, hwanted⟩

end Profile

/-- **When an outbound is multiplexed.** A profile with a flow never is, and neither is one that does
not want to be. One that insists on it is, and any other one if its protocol is made for it, its
stream does not do it already, and the settings or its fixed bandwidth ask for it. Its native outbound
says so exactly then, but for a configuration of the user's own, which may say so by itself. -/
theorem multiplexed_iff_permitted (p : Profile) (mux : MuxSettings) :
    (p.multiplexed mux = true ↔
      p.Flowless ∧ (p.muxState = .forceOn ∨ p.muxState = .unset ∧ p.Suits mux)) ∧
    ∀ settings tag fields, settings.mux = mux → compileNative settings p tag = .ok fields →
      Fields.get? "multiplex" fields = if p.multiplexed mux = true then some (p.multiplex mux)
        else Fields.get? "multiplex" p.protocol.ownOutbound := by
  constructor
  · rw [Profile.multiplexed, Bool.and_eq_true, Bool.not_eq_true', Profile.hasFlow_eq_false_iff]
    refine and_congr_right fun _ => ?_
    cases p.muxState with
    | forceOn => simp
    | forceOff => simp
    | unset => simpa using Profile.suits_iff
  · rintro settings tag fields rfl h
    obtain ⟨own, hown, -, rfl⟩ := eq_setAll_of_compileNative h
    have hkey : Fields.get? "multiplex" own = Fields.get? "multiplex" p.protocol.ownOutbound :=
      Protocol.get?_of_nativeOutbound (by decide) hown
    simp [Fields.get?_set, hkey]

/-- A server whose bandwidth is fixed. -/
def Setting.fixed : Profile :=
  { id := 3, protocol := .trojan { server := "far.example", serverPort := 443, password := "p" }
    enableBrutal := true, brutalSpeed := 100 }

/-- It is multiplexed, though the settings do not ask for it. -/
theorem multiplexed_iff_permitted_fixed :
    Setting.fixed.multiplexed {} = true ∧
      ∃ fields, compileNative {} Setting.fixed "proxy" = .ok fields ∧
        Fields.get? "multiplex" fields = some (Setting.fixed.multiplex {}) := by
  have hmux : Setting.fixed.multiplexed {} = true := by
    refine (multiplexed_iff_permitted Setting.fixed {}).1.2 ⟨?_, .inr ⟨rfl, ?_⟩⟩
    · rintro v ⟨⟩
    · refine ⟨.inr (.inl ⟨_, rfl⟩), ?_, by decide, .inr rfl⟩
      rintro s ⟨⟩
      simp [Stream.CarriesSeveral]
  obtain ⟨fields, hfields⟩ : ∃ fields, compileNative {} Setting.fixed "proxy" = .ok fields := ⟨_, rfl⟩
  refine ⟨hmux, fields, hfields, ?_⟩
  rw [(multiplexed_iff_permitted Setting.fixed {}).2 {} "proxy" fields rfl hfields, if_pos hmux]

/-- A server that speaks a protocol which multiplexing is not made for, and insists on it. -/
def Setting.insistent : Profile :=
  { id := 1, protocol := .socks { server := "near.example", serverPort := 1080 }
    muxState := .forceOn }

/-- It is multiplexed all the same. -/
theorem multiplexed_insistent :
    Setting.insistent.multiplexed {} = true ∧ ¬ Setting.insistent.protocol.IsMultiplexable ∧
      ∃ fields, compileNative {} Setting.insistent "proxy" = .ok fields ∧
        Fields.get? "multiplex" fields = some (Setting.insistent.multiplex {}) := by
  refine ⟨by decide, ?_, _, rfl, rfl⟩
  simp [Setting.insistent, Protocol.IsMultiplexable]

end Detour
