import Lobby.Proofs.Game.Size
import Lobby.Proofs.Record.RoundTrip
import Lobby.Proofs.Request.Ledger
import Lobby.Proofs.Text.Utf8

/-!
# Saved settings

Settings belong to the player that a session is logged in as when it saves them.  A request that is
not a save, and a save that is refused, leaves the store alone; a save changes one setting of one
player (`Server.setting?_after`).  So at any time a player has for every key what was saved last
under it (`Server.saved_run`), and a load puts just that on the wire, in the order of the bytes
of the keys (`Server.load_run`).
-/

namespace Lobby

structure Save where
  player : PlayerId
  key : String
  value : String

def Save.last? (saves : List Save) (player : PlayerId) (key : String) : Option String :=
  (saves.filter fun x => x.player = player ∧ x.key = key).getLast?.map (·.value)

namespace Server

/-- What an event saves.  The session has to be logged in, the store available, and the request
readable, with a text for the key and one for the value. -/
def save? (s : Server) : Event → Option Save
  | .request session packet => do
    let player ← (s.session session).player
    let content ← packet.records.toOption
    let key ← content.string? Field.key
    let value ← content.string? Field.data
    if packet.header.route = Route.saveSetting ∧ s.store.available then
      some ⟨player.id, key, value⟩
    else none
  | _ => none

def saves (s : Server) : List Event → List Save
  | [] => []
  | e :: events => (s.save? e).toList ++ (s.after e).saves events

/-- If an event changes the store without a request, no settings change. -/
def keepsSettings (s : Server) : Event → Bool
  | .restock store => store.settings = s.store.settings
  | _ => true

def keepsSettingsAll (s : Server) : List Event → Bool
  | [] => true
  | e :: events => s.keepsSettings e && (s.after e).keepsSettingsAll events

def setting? (s : Server) (player : PlayerId) (key : String) : Option String :=
  (s.store.settingsOf player).get? key

variable {s : Server}

end Server

/-! ### Saving -/

theorem Save.last?_cons (x : Save) (saves : List Save) (player : PlayerId) (key : String) :
    last? (x :: saves) player key =
      (last? saves player key).or
        (if x.player = player ∧ x.key = key then some x.value else none) := by
  rw [last?, last?, List.filter_cons]
  by_cases here : x.player = player ∧ x.key = key
  · rw [if_pos (decide_eq_true here), if_pos here, List.getLast?_cons]
    cases (saves.filter fun x => x.player = player ∧ x.key = key).getLast? <;> rfl
  · rw [if_neg (by simpa using here), if_neg here, Option.or_none]

theorem Save.last?_append (xs ys : List Save) (player : PlayerId) (key : String) :
    last? (xs ++ ys) player key = (last? ys player key).or (last? xs player key) := by
  induction xs with
  | nil => rw [List.nil_append, show last? [] player key = none from rfl, Option.or_none]
  | cons x xs ih => rw [List.cons_append, last?_cons, last?_cons, ih, Option.or_assoc]

namespace Store

def save (store : Store) (x : Save) : Store :=
  { store with
    settings :=
      store.settings.insert x.player ((store.settingsOf x.player).insert x.key x.value) }

/-- Saving a setting changes that one and no other. -/
theorem get?_settingsOf_save (store : Store) (x : Save) (player : PlayerId) (key : String) :
    ((store.save x).settingsOf player).get? key =
      (if x.player = player ∧ x.key = key then some x.value else none).or
        ((store.settingsOf player).get? key) := by
  rw [settingsOf, save, SortedMap.get?_insert]
  by_cases own : x.player = player
  · subst own
    rw [if_pos rfl, Option.getD_some, SortedMap.get?_insert]
    by_cases same : x.key = key <;> simp [same]
  · rw [if_neg own, if_neg (fun both => own both.1), Option.none_or]
    rfl

end Store

namespace Utility

open Server

/-- A request to save passes its check exactly if there is something to save. -/
theorem toOption_checkSetting (s : Server) (session : SessionId) {request : Packet}
    (here : request.header.route = Route.saveSetting) :
    (checkSetting s session request).toOption =
      (s.save? (.request session request)).map s.store.save := by
  simp only [save?, here, checkSetting, Check.player, Check.content, Content.requireString]
  cases (s.session session).player with
  | none => rfl
  | some player =>
    cases request.records with
    | error cause => rfl
    | ok content =>
      dsimp only [Except.mapError, Except.toOption, bind, Except.bind, Option.bind]
      cases content.string? Field.key with
      | none => rfl
      | some key =>
        cases content.string? Field.data with
        | none => rfl
        | some value =>
          show (Check.stored (s.store.saveSetting player.id key value)).toOption =
            Option.map s.store.save (if True ∧ s.store.available = true then _ else none)
          rw [Store.saveSetting, Store.ask]
          by_cases available : s.store.available = true
          · rw [if_pos available, if_pos ⟨trivial, available⟩]
            rfl
          · rw [if_neg available, if_neg fun both => available both.2]
            rfl

/-- A save goes through exactly if there is something to save, and changes nothing otherwise. -/
theorem saveSetting_cases (s : Server) (session : SessionId) {request : Packet}
    (here : request.header.route = Route.saveSetting) :
    (∃ x, s.save? (.request session request) = some x ∧
        saveSetting s session request =
          (.replied [request.emptyResponse], { s with store := s.store.save x })) ∨
      s.save? (.request session request) = none ∧
        ∃ cause, saveSetting s session request = (.refused cause, s) := by
  have check := toOption_checkSetting s session here
  rw [saveSetting, Handler.acting, Handler.checked]
  cases checked : checkSetting s session request with
  | error cause =>
    rw [checked] at check
    exact .inr ⟨Option.map_eq_none_iff.1 check.symm, cause, rfl⟩
  | ok store =>
    rw [checked] at check
    obtain ⟨x, saved, rfl⟩ := Option.map_eq_some_iff.1 check.symm
    exact .inl ⟨x, saved, rfl⟩

theorem saveSetting_replied_iff (s : Server) (session : SessionId) {request : Packet}
    (here : request.header.route = Route.saveSetting) :
    (∃ replies, (saveSetting s session request).1 = .replied replies) ↔
      (s.save? (.request session request)).isSome = true := by
  rcases saveSetting_cases s session here with ⟨x, saved, result⟩ | ⟨none, cause, result⟩
  · rw [saved, result]
    exact ⟨fun _ => rfl, fun _ => ⟨_, rfl⟩⟩
  · rw [none, result]
    exact ⟨by simp, by simp⟩

/-- A load succeeds exactly if the session is logged in and the store available. -/
theorem loadSettings_cases (s : Server) (session : SessionId) (request : Packet) :
    (∃ player, (s.session session).player = some player ∧ s.store.available = true ∧
        loadSettings s session request = (.replied [request.response
          [.attributes Field.smap (s.store.settingsOf player.id)]], s)) ∨
      ¬((s.session session).player.isSome = true ∧ s.store.available = true) ∧
        ∃ cause, loadSettings s session request = (.refused cause, s) := by
  rw [loadSettings, Handler.answering, Handler.checked, Check.player]
  cases (s.session session).player with
  | none => exact .inr ⟨by simp, _, rfl⟩
  | some player =>
    have asked : Check.stored (s.store.loadSettings player.id) =
        Check.stored (s.store.ask (s.store.settingsOf player.id)) := rfl
    simp only [bind, Except.bind, asked, Store.ask]
    by_cases available : s.store.available = true
    · rw [if_pos available]
      exact .inl ⟨player, rfl, available, rfl⟩
    · rw [if_neg available]
      exact .inr ⟨fun both => available both.2, _, rfl⟩

end Utility

/-! ### Runs -/

/-- A request that saves nothing keeps the store. -/
theorem Router.store_dispatch (s : Server) (session : SessionId) {request : Packet}
    (other : request.header.route ≠ Route.saveSetting) :
    (standard.dispatch s session request).2.store = s.store := by
  obtain ⟨l, entries, result⟩ := entries_dispatch s session request
  refine Eq.trans ?_ (entries.store other)
  rcases result with same | ⟨f, -, same⟩
  · exact congrArg Ledger.store same
  · exact congrArg Ledger.store same

namespace Server

variable {s : Server}

theorem save?_of_ne {session : SessionId} {request : Packet}
    (other : request.header.route ≠ Route.saveSetting) :
    s.save? (.request session request) = none := by
  simp [save?, other]

/-- What a saving request makes of the store. -/
theorem store_dispatch_save (s : Server) (session : SessionId) {request : Packet}
    (here : request.header.route = Route.saveSetting) :
    (Router.standard.dispatch s session request).2.store =
      ((s.save? (.request session request)).map s.store.save).getD s.store := by
  have found : Router.standard.handler? request.header.route = some Utility.saveSetting := by
    rw [here]
    rfl
  rw [Router.dispatch, found]
  dsimp only
  rcases Utility.saveSetting_cases s session here with ⟨x, saved, result⟩ | ⟨none, cause, result⟩
  · rw [saved, result]
    rfl
  · rw [none, result]
    rfl

/-- **An event changes a setting only by saving it.** -/
theorem setting?_after {e : Event} (kept : s.keepsSettings e = true) (player : PlayerId)
    (key : String) :
    (s.after e).setting? player key =
      (Save.last? (s.save? e).toList player key).or (s.setting? player key) := by
  rw [setting?, setting?]
  cases e with
  | request session packet =>
    rw [after]
    by_cases here : packet.header.route = Route.saveSetting
    · rw [store_dispatch_save s session here]
      cases s.save? (.request session packet) with
      | none => rfl
      | some x =>
        rw [Option.toList_some, Save.last?_cons]
        exact s.store.get?_settingsOf_save x player key
    · rw [Router.store_dispatch s session here, save?_of_ne here]
      rfl
  | disconnect session =>
    have entries : Ledger.Entries True Route.logout s.ledger _ :=
      entries_leaveActivities s session disconnectedReason
    have same : (s.after (.disconnect session)).store = s.store := entries.store (by decide)
    rw [same]
    rfl
  | restock store =>
    have same : store.settings = s.store.settings := of_decide_eq_true kept
    show ((store.settings.get? player).getD ∅).get? key = _
    rw [same]
    rfl
  | connect peer => rfl
  | close session => rfl
  | wait clock => rfl

/-- **A player has for every key what was saved last under it**, or else what there was before. -/
theorem setting?_run {events : List Event} (kept : s.keepsSettingsAll events = true)
    (player : PlayerId) (key : String) :
    (s.run events).setting? player key =
      (Save.last? (s.saves events) player key).or (s.setting? player key) := by
  induction events generalizing s with
  | nil => rfl
  | cons e events ih =>
    obtain ⟨first, rest⟩ := Bool.and_eq_true_iff.1 kept
    have step := setting?_after first player key
    have later : ((s.after e).run events).setting? player key = _ := ih rest
    rw [saves, Save.last?_append, Option.or_assoc, ← step, ← later]
    rfl

/-- **A player that had no settings has what it has saved last.** -/
theorem saved_run {store : Store} {events : List Event}
    (fresh : ∀ player, store.settingsOf player = ∅)
    (kept : (start store).keepsSettingsAll events = true) (player : PlayerId) (key : String) :
    (((start store).run events).store.settingsOf player).get? key =
      Save.last? ((start store).saves events) player key := by
  have all : (((start store).run events).store.settingsOf player).get? key = _ :=
    setting?_run kept player key
  have before : (start store).setting? player key = none :=
    congrArg (SortedMap.get? · key) (fresh player)
  rw [all, before, Option.or_none]

/-- A reply that fits into memory is read back as the map it was made from. -/
theorem decodeAll_settings (request : Packet) (settings : Attributes)
    (fits : (request.response [.attributes Field.smap settings]).contents.length ≤ maxLength) :
    decodeAll (request.response [.attributes Field.smap settings]).contents =
      .ok [.mk Field.smap (.map (.strings settings.keys) (.strings settings.values))] := by
  rw [Packet.length_response, Record.sizeAll_cons, Record.sizeAll_nil] at fits
  have sound : ∀ r ∈ [Record.attributes Field.smap settings], r.Sound := by
    intro r mem
    rw [List.mem_singleton.1 mem]
    exact Record.sound_attributes fits
  exact (decodeAll_encodeAll_eq sound).trans (if_pos (Nat.zero_le _))

/-- Keys in order are in order on the wire. -/
theorem pairwise_bytes_keys (settings : Attributes) :
    (settings.keys.map Bytes.ofString).Pairwise (· < ·) := by
  rw [SortedMap.keys, List.map_map, List.pairwise_map]
  exact settings.sorted.imp fun lt => Bytes.ofString_lt lt

theorem mem_zip_iff (settings : Attributes) (key value : String) :
    (key, value) ∈ settings.keys.zip settings.values ↔ settings.get? key = some value := by
  have entries : settings.keys.zip settings.values = settings.entries :=
    (List.zip_of_prod rfl rfl).symm
  rw [entries]
  exact ⟨fun mem => settings.get?_of_mem mem, SortedMap.mem_of_find?⟩

/-- **Settings survive the wire**, in the order of the bytes of their keys. -/
theorem exists_decodeAll_settings (request : Packet) (settings : Attributes)
    (fits : (request.response [.attributes Field.smap settings]).contents.length ≤ maxLength) :
    ∃ keys values,
      decodeAll (request.response [.attributes Field.smap settings]).contents =
        .ok [.mk Field.smap (.map (.strings keys) (.strings values))] ∧
      keys.length = values.length ∧ (keys.map Bytes.ofString).Pairwise (· < ·) ∧
      ∀ key value, (key, value) ∈ keys.zip values ↔ settings.get? key = some value := by
  refine ⟨_, _, decodeAll_settings request settings fits, ?_, pairwise_bytes_keys settings,
    mem_zip_iff settings⟩
  rw [SortedMap.keys, SortedMap.values, List.length_map, List.length_map]

/-- **A player gets back what it has saved**, whatever the other players and the failed requests of
the run, and in the order of the bytes of the keys. -/
theorem load_run (store : Store) (events : List Event)
    (fresh : ∀ player, store.settingsOf player = ∅)
    (kept : (start store).keepsSettingsAll events = true) :
    let s := (start store).run events
    let saves := (start store).saves events
    (∀ session request, request.header.route = Route.saveSetting →
      ((∃ replies, (Utility.saveSetting s session request).1 = .replied replies) ↔
        (s.save? (.request session request)).isSome = true)) ∧
    ∀ session request, request.header.route = Route.loadSettings →
      ((∃ replies, (Utility.loadSettings s session request).1 = .replied replies) ↔
        (s.session session).player.isSome = true ∧ s.store.available = true) ∧
      ∀ replies, (Utility.loadSettings s session request).1 = .replied replies →
        ∃ player reply, (s.session session).player = some player ∧ replies = [reply] ∧
          Router.standard.dispatch s session request = ([reply], s) ∧
          (reply.contents.length ≤ maxLength →
            ∃ keys values,
              decodeAll reply.contents =
                .ok [.mk Field.smap (.map (.strings keys) (.strings values))] ∧
              keys.length = values.length ∧ (keys.map Bytes.ofString).Pairwise (· < ·) ∧
              ∀ key value, (key, value) ∈ keys.zip values ↔
                Save.last? saves player.id key = some value) := by
  intro s saves
  refine ⟨fun session request here => Utility.saveSetting_replied_iff s session here,
    fun session request here => ?_⟩
  rcases Utility.loadSettings_cases s session request with
    ⟨player, login, available, result⟩ | ⟨denied, cause, result⟩
  · rw [result, login]
    refine ⟨⟨fun _ => ⟨rfl, available⟩, fun _ => ⟨_, rfl⟩⟩, ?_⟩
    intro answer same
    cases same
    refine ⟨player, _, rfl, rfl, ?_, fun fits => ?_⟩
    · have found : Router.standard.handler? request.header.route = some Utility.loadSettings := by
        rw [here]
        rfl
      rw [Router.dispatch, found]
      dsimp only
      rw [result]
    · obtain ⟨keys, values, decoded, lengths, ordered, held⟩ := exists_decodeAll_settings _ _ fits
      refine ⟨keys, values, decoded, lengths, ordered, fun key value => ?_⟩
      rw [held, saved_run fresh kept]
  · rw [result]
    exact ⟨⟨by simp, fun both => absurd both denied⟩, by simp⟩

/-- Two players save under the same key while the store comes and goes, and one of them leaves and
comes back as itself. -/
theorem load_run_relogin :
    let account (id : PlayerId) (email : String) : Account := ⟨⟨id, email⟩, email, "word", "token"⟩
    let store : Store := ⟨.ofList [(1, account 1 "a@b"), (2, account 2 "c@d")], ∅, ∅, 3, true⟩
    let login (email : String) : Packet :=
      .request Route.login 0 [.string Field.mail email, .string Field.pass "word"]
    let save (key value : String) : Packet :=
      .request Route.saveSetting 0 [.string Field.key key, .string Field.data value]
    let first : List Event :=
      [.connect none, .connect none, .request 1 (login "a@b"), .request 2 (login "c@d"),
        .request 1 (save "z" "old"), .request 1 (save "é" "1"), .request 2 (save "z" "other"),
        .request 1 (save "z" "new")]
    let offline := ((start store).run first).store.setAvailable false
    let events : List Event :=
      first ++ [.restock offline, .request 1 (save "w" "lost"),
        .restock (offline.setAvailable true), .request 1 (.request Route.logout 0 []),
        .request 1 (save "w" "lost"), .disconnect 1, .connect none, .request 3 (login "a@b")]
    let s := (start store).run events
    let load : Packet := .request Route.loadSettings 9 []
    (∀ player, store.settingsOf player = ∅) ∧ (start store).keepsSettingsAll events = true ∧
      ∃ reply, Router.standard.dispatch s 3 load = ([reply], s) ∧
        reply.contents.length ≤ maxLength ∧
        ∃ keys values,
          decodeAll reply.contents =
            .ok [.mk Field.smap (.map (.strings keys) (.strings values))] ∧
          ("z", "new") ∈ keys.zip values ∧ ("é", "1") ∈ keys.zip values ∧
          ∀ value, ("w", value) ∉ keys.zip values := by
  intro account store login save first offline events s load
  have fresh (player : PlayerId) : store.settingsOf player = ∅ := rfl
  have kept : (start store).keepsSettingsAll events = true := by decide +kernel
  have run := (load_run store events fresh kept).2 3 load rfl
  obtain ⟨replies, replied⟩ := run.1.2 ⟨by decide +kernel, by decide +kernel⟩
  obtain ⟨player, reply, identity, rfl, answer, back⟩ := run.2 replies replied
  have own : player.id = 1 := by
    have known : ((s.session 3).player.map (·.id)) = some 1 := by decide +kernel
    rw [identity] at known
    exact Option.some.inj known
  have fits : reply.contents.length ≤ maxLength := by
    have all : ∀ p ∈ (Router.standard.dispatch s 3 load).1, p.contents.length ≤ maxLength := by
      decide +kernel
    rw [answer] at all
    exact all reply (List.mem_singleton.2 rfl)
  obtain ⟨keys, values, decoded, -, -, held⟩ := back fits
  rw [own] at held
  refine ⟨fresh, kept, reply, answer, fits, keys, values, decoded, ?_, ?_, ?_⟩
  · exact (held _ _).2 (by decide +kernel)
  · exact (held _ _).2 (by decide +kernel)
  · intro value mem
    have none : Save.last? ((start store).saves events) 1 "w" = none := by decide +kernel
    exact absurd ((held _ _).1 mem) (by simp [none])

end Server

end Lobby
