import Detour.Proofs.Hop.Compiled
import Detour.Proofs.Tree.Ordered
/-!
# Native outbounds under two tags

A profile may be compiled natively in several places, each time under another tag. Nothing else of
the outbound depends on the place (`eq_set_of_compileNative`), and its objects all have their keys in
order (`ordered_of_compileNative`), so that trees merged into it can be told apart by their paths.
-/

namespace Detour

open Detour.Tree

namespace Stream

variable {settings : Settings} {s : Stream} {t : Tree}

theorem ordered_of_transport? (h : s.transport? = some t) : t.Ordered := by
  have hheaders : (ofFields [("Host", .str s.host)]).Ordered :=
    ordered_ofFields (by simp [OrderedFields])
  unfold transport? at h
  repeat' split at h
  all_goals cases h
  all_goals exact ordered_ofFields (by simp [OrderedFields, hheaders])

/-- So are those of TLS, with all that is put into them. -/
theorem ordered_of_tls? (h : s.tls? settings = some t) : t.Ordered := by
  unfold tls? at h
  split at h
  · cases h
    have hreality : (ofFields [("enabled", .bool true), ("public_key", .str s.realityPublicKey),
        ("short_id", .str s.realityShortId)]).Ordered :=
      ordered_ofFields (by simp [OrderedFields])
    have hutls : (ofFields [("enabled", .bool true),
        ("fingerprint", .str (s.fingerprint settings))]).Ordered :=
      ordered_ofFields (by simp [OrderedFields])
    exact ordered_ofFields (by simp [OrderedFields, hreality, hutls])
  · cases h

theorem orderedFields_entries (settings : Settings) (s : Stream) :
    OrderedFields (s.entries settings) := by
  simp only [entries, orderedFields_append, orderedFields_nonEmpty, orderedFields_present, and_true]
  exact ⟨fun _ => ordered_of_transport?, fun _ => ordered_of_tls?⟩

end Stream

namespace Protocol

variable {settings : Settings} {p : Protocol} {entries own : Fields}

@[simp] theorem orderedFields_head (type : String) (e : Endpoint) : OrderedFields (head type e) := by
  simp [head, OrderedFields]

@[simp] theorem ordered_quicTls (sni alpn : String) (insecure : Bool) :
    (quicTls sni alpn insecure).Ordered :=
  ordered_ofFields (by simp [OrderedFields])

@[simp] theorem orderedFields_pluginEntries (plugin : String) :
    OrderedFields (pluginEntries plugin) := by
  unfold pluginEntries
  split
  · trivial
  · simp [OrderedFields]

/-- Whatever the protocol is, its entries are ordered. -/
theorem orderedFields_of_outboundEntries (h : p.outboundEntries settings = .ok entries) :
    OrderedFields entries := by
  cases p with
  | shadowsocks p =>
    rw [outboundEntries] at h
    split at h <;> cases h
    simp [OrderedFields]
  | vless p =>
    rw [outboundEntries] at h
    split at h <;> cases h
    simp [OrderedFields, Stream.orderedFields_entries]
  | tuic p =>
    rw [outboundEntries] at h
    split at h
    · cases h
    · split at h <;> cases h
      simp [OrderedFields]
  | http p =>
    cases h
    simpa using fun t => Stream.ordered_of_tls?
  | hysteria2 p =>
    cases h
    have hobfs : (ofFields [("type", .str "salamander"),
        ("password", .str p.obfsPassword)]).Ordered :=
      ordered_ofFields (by simp [OrderedFields])
    simp [OrderedFields, hobfs]
  | wireguard p =>
    cases h
    have hreserved : (list (p.reserved.map fun b => .int b.toNat)).Ordered := by
      simp [Ordered, orderedItems_iff]
    simp [OrderedFields, hreserved]
  | _ =>
    cases h
    simp [OrderedFields, Stream.orderedFields_entries]

/-- The native outbound of a protocol is ordered, also where it is a configuration of the user's
own. -/
theorem ordered_of_nativeOutbound (h : p.nativeOutbound settings = .ok own) :
    (object own).Ordered := by
  rcases nativeOutbound_cases h with ⟨c, rfl, rfl⟩ | ⟨-, entries, hentries, rfl⟩
  · rw [ownOutbound]
    split
    · cases hconfig : c.configObject? with
      | none => exact ⟨List.Pairwise.nil, trivial⟩
      | some fields => exact c.config.ordered.heldObject hconfig
    · exact ⟨List.Pairwise.nil, trivial⟩
  · exact ordered_ofFields (orderedFields_of_outboundEntries hentries)

end Protocol

variable {settings : Settings} {p : Profile} {tag tag' : String} {fields fields' : Fields}

theorem Profile.ordered_multiplex (p : Profile) (mux : MuxSettings) : (p.multiplex mux).Ordered := by
  have hbrutal : (ofFields [("enabled", .bool true), ("up_mbps", .int p.brutalSpeed.toInt),
      ("down_mbps", .int p.brutalSpeed.toInt)]).Ordered :=
    ordered_ofFields (by simp [OrderedFields])
  refine ordered_ofFields ?_
  cases p.enableBrutal <;> simp [OrderedFields, hbrutal]

/-- **A native outbound is ordered.** -/
theorem ordered_of_compileNative (h : compileNative settings p tag = .ok fields) :
    (object fields).Ordered := by
  obtain ⟨own, hown, -, rfl⟩ := eq_setAll_of_compileNative h
  refine ordered_setAll (Protocol.ordered_of_nativeOutbound hown) ?_
  simp [OrderedFields, p.ordered_multiplex]

/-- Two native outbounds of a profile differ in their tags alone. -/
theorem eq_set_of_compileNative (h : compileNative settings p tag = .ok fields)
    (h' : compileNative settings p tag' = .ok fields') :
    fields' = fields.set "tag" (.str tag') := by
  have hsorted : Fields.Sorted fields := (ordered_of_compileNative h).1
  have hsorted' : Fields.Sorted fields' := (ordered_of_compileNative h').1
  obtain ⟨own, hown, -, rfl⟩ := eq_setAll_of_compileNative h
  obtain ⟨own', hown', -, rfl⟩ := eq_setAll_of_compileNative h'
  rw [hown] at hown'
  cases hown'
  -- what is put behind the tag is the same in both, so the objects are compared key by key
  refine Fields.ext_of_sorted hsorted' (hsorted.set _ _) fun key => ?_
  by_cases hkey : key = "tag" <;> simp [Fields.get?_set, hkey]

end Detour
