import Detour.Proofs.Hop.Compiled
/-!
# Encryption of native outbounds

The section `tls` of an outbound comes from the stream of a protocol, or from the protocol itself where
it runs over QUIC. Either way it says openly whether certificates go unchecked:
`encrypted_of_nativeOutbound` says which outbounds have the section, and what is in it.
-/

namespace Detour

namespace Protocol

/-- The protocols that encrypt their connections: those over QUIC, and those over a stream that asks
for it. -/
def Encrypts (p : Protocol) : Prop :=
  (∃ h, p = .hysteria2 h) ∨ (∃ t, p = .tuic t) ∨
    ∃ s, p.stream? = some s ∧ (s.security = "tls" ∨ s.security = "reality")

/-- The profile does not ask for the server's certificate to be checked. -/
def allowsInsecure : Protocol → Bool
  | hysteria2 p => p.allowInsecure
  | tuic p => p.allowInsecure
  | p => p.stream?.any Stream.allowInsecure

/-- What the section of an outbound's encryption says: that it is on, that certificates go unchecked
exactly if the profile or the settings want that, and how a reality handshake is made. -/
structure Secures (settings : Settings) (p : Protocol) (tls : Fields) : Prop where
  enabled : Fields.get? "enabled" tls = some (.bool true)
  insecure : Fields.get? "insecure" tls =
    if p.allowsInsecure = true ∨ settings.skipCert = true then some (.bool true) else none
  reality : ∀ s, p.stream? = some s → s.security = "reality" →
    Fields.get? "reality" tls = some (.ofFields [("enabled", .bool true),
      ("public_key", .str s.realityPublicKey), ("short_id", .str s.realityShortId)]) ∧
    ∃ hello : String, hello ≠ "" ∧ Fields.get? "utls" tls =
      some (.ofFields [("enabled", .bool true), ("fingerprint", .str hello)])

/-- The encryption of a protocol's own outbound. -/
def encryption? (settings : Settings) : Protocol → Option Tree
  | hysteria2 p => some (quicTls p.sni p.alpn (p.allowInsecure || settings.skipCert))
  | tuic p => some (quicTls p.sni p.alpn (p.allowInsecure || settings.skipCert))
  | p => p.stream?.bind (Stream.tls? settings)

end Protocol

namespace Stream

variable {settings : Settings} {s : Stream}

theorem isTls_iff : s.isTls = true ↔ s.security = "tls" ∨ s.security = "reality" := by
  simp [isTls]

/-- A reality handshake always has a client hello. -/
theorem fingerprint_ne_empty (h : s.security = "reality") : s.fingerprint settings ≠ "" := by
  unfold fingerprint
  extract_lets own
  by_cases hown : own.isEmpty = true
  · rw [if_pos ⟨h, hown⟩]
    decide
  · rw [if_neg fun hand => hown hand.2]
    simpa using hown

theorem get?_tls_entries (settings : Settings) (s : Stream) (before : Fields)
    (h : Fields.Lacks "tls" before) :
    Fields.get? "tls" (Fields.ofList (before ++ s.entries settings)) = s.tls? settings := by
  rw [Fields.ofList, Fields.setAll_append, entries]
  simp [Fields.get?_setAll_of_lacks h]

end Stream

namespace Protocol

variable {settings : Settings} {p : Protocol} {entries fields : Fields}

/-- Of the entries of a protocol, those that encrypt it come from its stream or from itself. -/
theorem get?_tls_of_outboundEntries (h : p.outboundEntries settings = .ok entries) :
    Fields.get? "tls" (Fields.ofList entries) = p.encryption? settings := by
  cases p with
  | shadowsocks p =>
    rw [outboundEntries] at h
    split at h <;> cases h
    refine Fields.get?_ofList_of_lacks ?_
    simp only [pluginEntries]
    split <;> simp [head]
  | vless p =>
    rw [outboundEntries] at h
    split at h <;> cases h
    exact Stream.get?_tls_entries settings p.stream _ (by simp [head])
  | tuic p =>
    rw [outboundEntries] at h
    split at h
    · cases h
    · split at h <;> cases h
      simp [Fields.ofList, encryption?]
  | vmess p =>
    cases h
    exact Stream.get?_tls_entries settings p.stream _ (by simp [head])
  | trojan p =>
    cases h
    exact Stream.get?_tls_entries settings p.stream _ (by simp [head])
  | hysteria2 p =>
    cases h
    simp [Fields.ofList, encryption?]
  | http p =>
    cases h
    simp [Fields.ofList, encryption?, stream?, head, Fields.get?_set]
  | _ =>
    cases h
    exact Fields.get?_ofList_of_lacks (by simp [head])

/-- A protocol that encrypts by itself has the section of the protocols over QUIC. -/
theorem secures_quicTls (hstream : p.stream? = none) (sni alpn : String) :
    p.Secures settings (Fields.ofList ([("enabled", .bool true)] ++
      Entry.nonEmpty "server_name" sni ++
      Entry.onlyIf (p.allowsInsecure || settings.skipCert) "insecure" (.bool true) ++
      Entry.onlyIf (!alpn.isEmpty) "alpn" (.ofStrings (Text.commaList alpn)))) where
  enabled := by simp [Fields.ofList]
  insecure := by simp [Fields.ofList, Fields.get?_set]
  reality := by simp [hstream]

/-- A protocol over a stream has the section of the stream. -/
theorem secures_tls {s : Stream} (hstream : p.stream? = some s)
    (hinsecure : p.allowsInsecure = s.allowInsecure) (hs : s.isTls = true) :
    ∃ tls, s.tls? settings = some (.object tls) ∧ p.Secures settings tls := by
  refine ⟨_, by rw [Stream.tls?, if_pos hs]; rfl, ?_, ?_, ?_⟩
  · simp [Fields.ofList]
  · simp [Fields.ofList, Fields.get?_set, hinsecure]
  · intro s' hs' hreality
    cases hstream.symm.trans hs'
    refine ⟨by simp [Fields.ofList, hreality], s.fingerprint settings,
      Stream.fingerprint_ne_empty hreality, ?_⟩
    simp [Fields.ofList, Stream.fingerprint_ne_empty hreality]

/-- Of the protocols over a stream, those encrypt whose stream does. -/
theorem encrypts_iff_of_stream {s : Stream} (h : p.stream? = some s) :
    p.Encrypts ↔ s.isTls = true := by
  rw [Stream.isTls_iff]
  constructor
  · rintro (⟨q, rfl⟩ | ⟨q, rfl⟩ | ⟨s', hs', hsecurity⟩)
    · cases h
    · cases h
    · cases h.symm.trans hs'
      exact hsecurity
  · exact fun hsecurity => .inr (.inr ⟨s, h, hsecurity⟩)

/-- The encryption of a protocol over a stream. -/
theorem encryption?_of_stream (settings : Settings) {s : Stream} (h : p.stream? = some s) :
    p.encryption? settings = s.tls? settings ∧ p.allowsInsecure = s.allowInsecure := by
  cases p with
  | http p | vmess p | vless p | trojan p =>
    cases h
    exact ⟨rfl, rfl⟩
  | _ => cases h

/-- A protocol either does not encrypt and has no section for it, or encrypts and has a section that
says so. -/
theorem encryption?_cases (settings : Settings) (p : Protocol) :
    (¬ p.Encrypts ∧ p.encryption? settings = none) ∨
      p.Encrypts ∧ ∃ tls, p.encryption? settings = some (.object tls) ∧ p.Secures settings tls := by
  cases hstream : p.stream? with
  | some s =>
    obtain ⟨hencryption, hinsecure⟩ := encryption?_of_stream settings hstream
    rw [hencryption, encrypts_iff_of_stream hstream]
    by_cases hs : s.isTls = true
    · exact .inr ⟨hs, secures_tls hstream hinsecure hs⟩
    · exact .inl ⟨hs, by rw [Stream.tls?, if_neg hs]⟩
  | none =>
    cases p with
    | hysteria2 p => exact .inr ⟨.inl ⟨p, rfl⟩, _, rfl, secures_quicTls hstream _ _⟩
    | tuic p => exact .inr ⟨.inr (.inl ⟨p, rfl⟩), _, rfl, secures_quicTls hstream _ _⟩
    | http p | vmess p | vless p | trojan p => cases hstream
    | _ => exact .inl ⟨by simp [Encrypts, stream?], rfl⟩

end Protocol

/-- **Which outbounds are encrypted, and how.** The outbound of a protocol that is no configuration of
the user's own has the section `tls` exactly if the protocol encrypts its connections. The section is
on, it leaves certificates unchecked exactly if the profile or the settings say so, and a reality
handshake has all that it needs. -/
theorem encrypted_of_nativeOutbound {settings : Settings} {p : Protocol} {fields : Fields}
    (hp : ∀ c, p ≠ .custom c) (h : p.nativeOutbound settings = .ok fields) :
    ((∃ tls, Fields.get? "tls" fields = some (.object tls)) ↔ p.Encrypts) ∧
      ∀ t, Fields.get? "tls" fields = some t → ∃ tls, t = .object tls ∧ p.Secures settings tls := by
  obtain ⟨c, hc, -⟩ | ⟨-, entries, hentries, rfl⟩ := Protocol.nativeOutbound_cases h
  · exact absurd hc (hp c)
  · rw [Protocol.get?_tls_of_outboundEntries hentries]
    rcases Protocol.encryption?_cases settings p with ⟨hnot, hnone⟩ | ⟨henc, tls, htls, hsecures⟩
    · rw [hnone]
      exact ⟨by simp [hnot], by simp⟩
    · rw [htls]
      refine ⟨by simp [henc], ?_⟩
      rintro _ ⟨⟩
      exact ⟨tls, rfl, hsecures⟩

/-- A server behind a reality handshake, without a client hello of its own. -/
def Setting.masked : Protocol :=
  .vless {
    server := "far.example", serverPort := 443, uuid := "u"
    stream := { security := "reality", realityPublicKey := "pbk" } }

/-- Where the settings leave certificates unchecked, its outbound says so and makes a client hello. -/
theorem encrypted_of_nativeOutbound_masked :
    ∃ fields tls hello, Setting.masked.nativeOutbound { skipCert := true } = .ok fields ∧
      Fields.get? "tls" fields = some (.object tls) ∧
      Fields.get? "insecure" tls = some (.bool true) ∧ hello ≠ "" ∧
      Fields.get? "utls" tls =
        some (.ofFields [("enabled", .bool true), ("fingerprint", .str hello)]) := by
  obtain ⟨fields, hfields⟩ : ∃ fields, Setting.masked.nativeOutbound { skipCert := true } =
      .ok fields := ⟨_, rfl⟩
  obtain ⟨hiff, hsecures⟩ := encrypted_of_nativeOutbound (by simp [Setting.masked]) hfields
  obtain ⟨tls, htls⟩ := hiff.2 (.inr (.inr ⟨_, rfl, .inr rfl⟩))
  obtain ⟨_, ⟨⟩, hs⟩ := hsecures _ htls
  obtain ⟨-, hello, hne, hutls⟩ := hs.reality _ rfl rfl
  exact ⟨fields, tls, hello, hfields, htls, by simpa using hs.insecure, hne, hutls⟩

end Detour
