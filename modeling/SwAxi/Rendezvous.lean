import SwAxi.Operations
import SwAxi.Registry
import Mathlib.Data.List.TakeWhile

/-! The rendez-vous of a client and a router that are given the same URI: which URIs each of them takes, the path that
the client asks `::connect` for and the one that the router listens on. The client wants one more byte after the
prefix, and drops the status that it builds for a path that is too long. -/

namespace SwAxi
open Wire (Flatbuffers)

/-! ### Strings of bytes -/

/-- The string of a URI given by its bytes, one character each. -/
def ofBytes (bytes : List UInt8) : String := String.ofList (bytes.map Char.ofUInt8)

/-- A buffer as a C string: up to its terminator. -/
def cString (buffer : List UInt8) : List UInt8 := buffer.takeWhile (· ≠ 0)

/-- What `strncpy` writes for a limit of `count`: the string, cut there or filled up with zeros. -/
def strncpy (src : List UInt8) (count : Nat) : List UInt8 :=
  (cString src).take count ++ List.replicate (count - (cString src).length) 0

theorem ofUInt8_injective : Function.Injective Char.ofUInt8 := by
  intro a b h
  have hval : a.toUInt32 = b.toUInt32 := congrArg Char.val h
  exact UInt8.toUInt32_inj.mp hval

@[simp] theorem toList_ofBytes (bytes : List UInt8) : (ofBytes bytes).toList = bytes.map Char.ofUInt8 :=
  String.toList_ofList

@[simp] theorem length_ofBytes (bytes : List UInt8) : (ofBytes bytes).length = bytes.length := by
  rw [← String.length_toList, toList_ofBytes, List.length_map]

theorem cString_of_not_mem {bytes : List UInt8} (h : 0 ∉ bytes) : cString bytes = bytes := by
  refine List.takeWhile_eq_self_iff.mpr fun b hb => ?_
  simpa using fun h0 : b = 0 => h (h0 ▸ hb)

/-- A copy with a terminator behind it is the string, or what of it fits. -/
theorem cString_strncpy {src : List UInt8} (h : 0 ∉ src) (count : Nat) :
    cString (strncpy src count ++ [0]) = src.take count := by
  have hcopied : ∀ b ∈ src.take count, (b != 0) = true := by
    intro b hb
    simpa using fun h0 : b = 0 => h (h0 ▸ List.mem_of_mem_take hb)
  rw [strncpy, cString_of_not_mem h, List.append_assoc, ← List.replicate_succ', cString,
    List.takeWhile_append_of_pos (by simpa using hcopied), List.replicate_succ]
  simp

/-! ### One URI at both ends -/

/-- The path that `Run` listens on. -/
def Router.listenPath (r : Router) : String := RouterClient.socketPath r.uri

/-- `NewRouter` finds the URI malformed, whatever the number of clients. -/
def Router.Rejects (uri : List UInt8) : Prop :=
  ∀ n, newRouter (ofBytes uri) n = .error "Only unix:// protocol is supported"

namespace RouterClient

/-- The bytes of `unix://`. -/
def unixBytes : List UInt8 := [117, 110, 105, 120, 58, 47, 47]

/-- `addr.sun_path`: zeroed, and then copied to up to its last byte. -/
def sunPathBuffer (uri : List UInt8) : List UInt8 := strncpy (uri.drop 7) (sunPathSize - 1) ++ [0]

section
variable (Buf : Type) [Flatbuffers Buf] (uri : List UInt8)

/-- A disconnected client returns from `connect` with the URI found malformed. -/
def Rejects : Prop := ∀ (c : RouterClient) (x : ConnectCalls Buf), c.state = .disconnected →
  c.connect (ofBytes uri) x = some (c, none, ⟨1, "Can only communicate over UNIX domain sockets:" ++ ofBytes uri⟩)

/-- `connect` gets as far as asking `::connect` for the path. -/
def Dials (path : String) : Prop := ∃ (c : RouterClient) (info : SystemInfo) (x : ConnectCalls Buf) (result : _),
  SocketCall.connect path result ∈ Op.calls c (.connect (ofBytes uri) info x)

/-- A client and a router that are given the URI take it or not alike, and meet at the same path. -/
structure Meets : Prop where
  malformed : Rejects Buf uri ↔ Router.Rejects uri
  path : ∀ p, Dials Buf uri p → p = ofBytes (cString (sunPathBuffer uri)) ∧ cString (sunPathBuffer uri) = uri.drop 7 ∧
    ∀ n r, newRouter (ofBytes uri) n = .ok r → r.listenPath = p
  tooLong : sunPathSize ≤ (uri.drop 7).length → (∀ p, ¬Dials Buf uri p) ∧
    ∀ (c t : RouterClient) (info : SystemInfo) (x : ConnectCalls Buf) st,
      Op.call c (.connect (ofBytes uri) info x) = some (t, st) → st.isError = true

end

section
variable {Buf : Type} [Flatbuffers Buf] {uri : List UInt8}

theorem startsWith_ofBytes : startsWith (ofBytes uri) unixPrefix = true ↔ unixBytes <+: uri := by
  have hprefix : unixPrefix.toList = unixBytes.map Char.ofUInt8 := by decide
  rw [startsWith, hprefix, toList_ofBytes, List.isPrefixOf_iff_prefix, List.prefix_map_iff]
  constructor
  · rintro ⟨pre, hpre, hmap⟩
    rwa [List.map_injective_iff.mpr ofUInt8_injective hmap]
  · exact fun h => ⟨unixBytes, h, rfl⟩

/-- The two checks of the client. -/
theorem malformed_iff : (ofBytes uri).length < 8 ∨ startsWith (ofBytes uri) unixPrefix = false ↔
    ¬(8 ≤ uri.length ∧ unixBytes <+: uri) := by
  rw [length_ofBytes, ← startsWith_ofBytes, not_and_or, Bool.not_eq_true, Nat.not_le]

theorem socketPath_ofBytes : socketPath (ofBytes uri) = ofBytes (uri.drop 7) := by
  rw [socketPath, toList_ofBytes, ← List.map_drop, ofBytes]

/-- The path asked for is what the buffer holds up to its terminator. -/
theorem sunPath_ofBytes (hnul : 0 ∉ uri) : sunPath (ofBytes uri) = ofBytes (cString (sunPathBuffer uri)) := by
  have hpath : 0 ∉ uri.drop 7 := fun h0 => hnul (List.mem_of_mem_drop h0)
  rw [sunPath, socketPath_ofBytes, toList_ofBytes, ← List.map_take, sunPathBuffer, cString_strncpy hpath, ofBytes]

theorem connect_mem_calls {x : ConnectCalls Buf} {text p : String} {info : SystemInfo} {result : Except String Unit}
    (h : SocketCall.connect p result ∈ x.calls text info) : p = sunPath text := by
  unfold ConnectCalls.calls at h
  rcases List.mem_cons.mp h with h | h
  · cases h
  · split at h
    · cases h
    · rcases List.mem_cons.mp h with h | h
      · cases h
        rfl
      · -- The rest are a write and a read.
        split at h
        · cases h
        · unfold Exchange.calls at h
          rcases List.mem_cons.mp h with h | h
          · cases h
          · split at h
            · cases h
            · cases List.mem_singleton.mp h

theorem rejects_iff : Rejects Buf uri ↔ ¬(8 ≤ uri.length ∧ unixBytes <+: uri) := by
  constructor
  · intro h hwell
    -- The client goes on to ask for a socket, and stores that it got none.
    let x : ConnectCalls Buf := { write := .error "", read := .error "", socket := .error "", connect := fun _ => .ok () }
    have hrejected := h { sock := 5 } x rfl
    rw [connect, dial, if_neg (by simp), if_neg (mt malformed_iff.mp (not_not.mpr hwell))] at hrejected
    have hsock := congrArg RouterClient.sock (Prod.mk.inj (Option.some.inj hrejected)).1
    exact absurd hsock (by decide)
  · intro hbad c x hstate
    rw [connect, dial, if_neg (by simp [hstate]), if_pos (malformed_iff.mpr hbad)]

theorem routerRejects_iff : Router.Rejects uri ↔ ¬unixBytes <+: uri := by
  rw [← startsWith_ofBytes, Bool.not_eq_true]
  constructor
  · intro h
    by_contra hwell
    have hrejected := h 1
    simp [newRouter, hwell] at hrejected
  · intro hbad n
    rw [newRouter, if_pos hbad]

theorem dials_iff {p : String} : Dials Buf uri p ↔ (8 ≤ uri.length ∧ unixBytes <+: uri) ∧ p = sunPath (ofBytes uri) := by
  constructor
  · rintro ⟨c, info, x, result, hmem⟩
    simp only [Op.calls] at hmem
    split at hmem
    · cases hmem
    · split at hmem
      · cases hmem
      · exact ⟨not_not.mp (mt malformed_iff.mpr ‹_›), connect_mem_calls hmem⟩
  · rintro ⟨hwell, rfl⟩
    refine ⟨{}, {}, { write := .error "", read := .error "", socket := .ok 3, connect := fun _ => .ok () }, .ok (), ?_⟩
    simp only [Op.calls]
    rw [if_neg (by simp), if_neg (mt malformed_iff.mp (not_not.mpr hwell))]
    simp [ConnectCalls.calls]

/-- The prefix alone is the one URI that only the client finds too short. -/
theorem malformed_agrees_iff : (Rejects Buf uri ↔ Router.Rejects uri) ↔ uri ≠ unixBytes := by
  rw [rejects_iff, routerRejects_iff]
  constructor
  · rintro h rfl
    exact absurd List.prefix_rfl (h.mp (by decide))
  · intro hne
    refine not_congr ⟨And.right, fun hpre => ⟨?_, hpre⟩⟩
    have hlen : unixBytes.length = 7 := rfl
    have hle := hpre.length_le
    have hlt : uri.length ≠ 7 := fun h7 => hne (hpre.eq_of_length (by omega)).symm
    omega

/-- A client that finds the URI malformed, or is connected, returns an error. -/
theorem connect_isError (hpre : ¬unixBytes <+: uri) {c t : RouterClient} {info : SystemInfo} {x : ConnectCalls Buf}
    {st : Status} (h : Op.call c (.connect (ofBytes uri) info x) = some (t, st)) : st.isError = true := by
  obtain ⟨r, hr, hst⟩ := Option.map_eq_some_iff.mp h
  have hbad := malformed_iff.mpr fun hwell : 8 ≤ uri.length ∧ unixBytes <+: uri => hpre hwell.2
  by_cases hstate : c.state = .disconnected
  · rw [connect, dial, if_neg (not_not.mpr hstate), if_pos hbad] at hr
    cases hr
    cases hst
    rfl
  · rw [connect, dial, if_pos hstate] at hr
    cases hr
    cases hst
    rfl

end

/-- Client and router agree on a URI exactly when it is more than the prefix and its path fits into `sun_path`, with
    the terminator, given that it has the prefix. -/
theorem meets_iff (Buf : Type) [Flatbuffers Buf] {uri : List UInt8} (hnul : 0 ∉ uri) :
    Meets Buf uri ↔ uri ≠ unixBytes ∧ (unixBytes <+: uri → (uri.drop 7).length < sunPathSize) := by
  constructor
  · intro h
    refine ⟨malformed_agrees_iff.mp h.malformed, fun hpre => Nat.lt_of_not_le fun hlong => ?_⟩
    have hlen : 8 ≤ uri.length := by
      rw [List.length_drop] at hlong
      unfold sunPathSize at hlong
      omega
    exact (h.tooLong hlong).1 _ (dials_iff.mpr ⟨⟨hlen, hpre⟩, rfl⟩)
  · rintro ⟨hne, hfits⟩
    refine ⟨malformed_agrees_iff.mpr hne, fun p hp => ?_, fun hlong => ?_⟩
    · obtain ⟨⟨-, hpre⟩, rfl⟩ := dials_iff.mp hp
      have hshort := hfits hpre
      have hwhole : cString (sunPathBuffer uri) = uri.drop 7 := by
        rw [sunPathBuffer, cString_strncpy fun h0 => hnul (List.mem_of_mem_drop h0),
          List.take_of_length_le (Nat.le_sub_one_of_lt hshort)]
      refine ⟨sunPath_ofBytes hnul, hwhole, fun n r hr => ?_⟩
      obtain ⟨-, rfl⟩ := Router.newRouter_inv hr
      rw [sunPath_ofBytes hnul, hwhole]
      exact socketPath_ofBytes
    · have hpre : ¬unixBytes <+: uri := fun hpre => absurd (hfits hpre) (Nat.not_lt.mpr hlong)
      exact ⟨fun p hp => hpre (dials_iff.mp hp).1.2, fun c t info x st h => connect_isError hpre h⟩

/-- The bytes of `unix:///tmp/a`. -/
def tmpBytes : List UInt8 := unixBytes ++ [47, 116, 109, 112, 47, 97]

theorem meets_tmp : Meets Wire.Message tmpBytes := (meets_iff Wire.Message (by decide)).mpr (by decide)

/-- A path of 108 bytes, one too many. -/
def longBytes : List UInt8 := unixBytes ++ List.replicate 108 97

/-- The router takes the prefix alone and the client does not; and the client asks for the first 107 bytes of a path of
    108. -/
theorem not_meets : ¬Meets Wire.Message unixBytes ∧ ¬Meets Wire.Message longBytes := by
  constructor
  · intro h
    exact malformed_agrees_iff.mp h.malformed rfl
  · intro h
    have hlong : sunPathSize ≤ (longBytes.drop 7).length := by decide
    exact (h.tooLong hlong).1 _ (dials_iff.mpr ⟨by decide, rfl⟩)

end RouterClient

end SwAxi
