import BorrowSketch.Proofs.Editor.Names
import BorrowSketch.Proofs.Session.Renaming
import Mathlib.Logic.Function.Basic

/-! # Sessions that share an editor

Several sessions may use one editor, with their events in any order. Each of them does what it does
alone: it only ever hands numbers to the editor that the editor gave to it.

* **`Sharing`**, **`Sharing.handle`**, **`Sharing.run`** — sessions that share an editor, and their
  events in any order.
* **`Sharing.Follows`** — one of the sessions is as it is alone, up to the names of its layers.
* **`Sharing.Follows.handle_self`**, **`Sharing.Follows.handle_other`** — its own events and those
  of others keep it so.
* **`Sharing.run_like_alone`** — what the sessions do together is what each does alone. -/

namespace BorrowSketch

/-- Several sessions that share an editor, with an account of what each of them did. -/
structure Sharing (ι : Type) where
  /-- The sessions. -/
  sessions : ι → Session
  /-- The editor that they share. -/
  editor : Editor
  /-- What each session answered, the oldest answer first. -/
  replies : ι → List Session.Reply
  /-- The layers that came into being while each session handled its events, the oldest first. -/
  created : ι → List LayerId

namespace Sharing

variable {ι : Type}

/-- Sessions with the given settings that have seen nothing yet, and an empty editor. -/
def start (settings : ι → Handlers × Config × Options) : Sharing ι where
  sessions i := .start (settings i).1 (settings i).2.1 (settings i).2.2
  editor := .empty
  replies _ := []
  created _ := []

/-- The name in the shared editor of a layer that a session has when it is alone. -/
def nameOf (state : Sharing ι) (i : ι) : LayerId → LayerId :=
  BorrowSketch.nameOf (state.created i) state.editor.created

/-- **One of the sessions is as it is alone.** It answered the same and is the same up to the names
of its layers, and its layers are alike. -/
structure Follows (i : ι) (alone shared : Sharing ι) : Prop where
  /-- The layers of the session alone are in order. -/
  kept : Session.Kept (alone.sessions i, alone.editor) []
  /-- All layers of the editor that it has alone are its own. -/
  own : alone.created i = layersAfter 0 alone.editor.created
  /-- As many layers were created in the shared editor. -/
  length : (shared.created i).length = alone.editor.created
  /-- They have different names. -/
  nodup : (shared.created i).Nodup
  /-- They are there. -/
  there : ∀ id ∈ shared.created i, 0 < id.number ∧ id.number ≤ shared.editor.created
  /-- The answers are the same. -/
  replies : shared.replies i = alone.replies i
  /-- The session is the same up to the names. -/
  session : shared.sessions i = (alone.sessions i).rename (shared.nameOf i)
  /-- The layers are alike. -/
  layer?_nameOf : ∀ id, shared.editor.layer? (shared.nameOf i id) = alone.editor.layer? id

variable {alone shared other : Sharing ι} {i j : ι}

/-- The names of the layers of a session in the shared editor. -/
def Follows.naming (h : Follows i alone shared) : Editor.Naming alone.editor shared.editor :=
  Editor.naming alone.editor shared.editor (shared.created i) h.length h.nodup h.there

/-- So far, the shared editor mirrors the one that the session has alone. -/
theorem Follows.mirrors (h : Follows i alone shared) :
    Editor.Mirrors h.naming alone.editor shared.editor where
  grown := ⟨0, rfl, rfl⟩
  layer?_map := h.layer?_nameOf
  layer?_other _ _ := rfl
  said := ⟨[], (List.append_nil _).symm, (List.append_nil _).symm⟩

/-! ## Events -/

variable [DecidableEq ι]

/-- One of the sessions handles an event. -/
def handle (state : Sharing ι) (i : ι) (event : Session.Event) : Sharing ι :=
  let (reply, session, editor) := (state.sessions i).handle state.editor event
  { sessions := Function.update state.sessions i session
    editor := editor
    replies := Function.update state.replies i (state.replies i ++ [reply])
    created :=
      Function.update state.created i (state.created i ++ state.editor.newLayers editor) }

/-- The sessions and their editor after events, each of which happens to one of the sessions. -/
def run (settings : ι → Handlers × Config × Options) (events : List (ι × Session.Event)) :
    Sharing ι :=
  events.foldl (fun state event => state.handle event.1 event.2) (start settings)

section Handle

variable (state : Sharing ι) (event : Session.Event)

@[simp] theorem sessions_handle_self : (state.handle i event).sessions i =
    ((state.sessions i).handle state.editor event).2.1 :=
  Function.update_self i _ _

@[simp] theorem replies_handle_self : (state.handle i event).replies i =
    state.replies i ++ [((state.sessions i).handle state.editor event).1] :=
  Function.update_self i _ _

@[simp] theorem created_handle_self : (state.handle i event).created i =
    state.created i ++ state.editor.newLayers (state.handle i event).editor :=
  Function.update_self i _ _

variable (h : i ≠ j)

include h

theorem sessions_handle_of_ne : (state.handle j event).sessions i = state.sessions i :=
  Function.update_of_ne h _ _

theorem replies_handle_of_ne : (state.handle j event).replies i = state.replies i :=
  Function.update_of_ne h _ _

theorem created_handle_of_ne : (state.handle j event).created i = state.created i :=
  Function.update_of_ne h _ _

end Handle

namespace Follows

/-- An event is answered alike, and leads to the same session up to the names. -/
theorem alike_handle (h : Follows i alone shared) (event : Session.Event) :
    (shared.handle i event).replies i = (alone.handle i event).replies i ∧
      (shared.handle i event).sessions i =
        ((alone.handle i event).sessions i).rename (shared.nameOf i) ∧
      Editor.Mirrors h.naming (alone.handle i event).editor (shared.handle i event).editor := by
  obtain ⟨hreply, hsession, hmirrors⟩ :=
    Session.alike_handle h.mirrors (alone.sessions i) event
  have hrenamed : (alone.sessions i).rename h.naming.map = shared.sessions i := h.session.symm
  rw [hrenamed] at hreply hsession hmirrors
  refine ⟨?_, ?_, hmirrors⟩
  · rw [replies_handle_self, replies_handle_self, h.replies, hreply]
  · rw [sessions_handle_self, sessions_handle_self]
    exact hsession

/-- **No event reaches the layers of others.** -/
theorem layer?_handle (h : Follows i alone shared) (event : Session.Event) {id : LayerId}
    (hother : id ∉ shared.created i) (hthere : 0 < id.number ∧ id.number ≤ shared.editor.created) :
    (shared.handle i event).editor.layer? id = shared.editor.layer? id := by
  refine (h.alike_handle event).2.2.layer?_other id fun hrange => ?_
  rcases mem_range_nameOf hrange with hzero | hgiven | hnext
  · rw [hzero] at hthere
    exact absurd hthere.1 (Nat.lt_irrefl 0)
  · exact hother hgiven
  · exact absurd hnext (Nat.not_lt.2 hthere.2)

/-- An event creates as many layers in the shared editor as in the one that the session has alone,
and the account has them as layers of the session. -/
theorem grown (h : Follows i alone shared) (event : Session.Event) :
    ∃ n, (alone.handle i event).editor.created = alone.editor.created + n ∧
      (shared.handle i event).editor.created = shared.editor.created + n ∧
      (alone.handle i event).created i =
        alone.created i ++ layersAfter alone.editor.created n ∧
      (shared.handle i event).created i =
        shared.created i ++ layersAfter shared.editor.created n := by
  obtain ⟨-, -, hmirrors⟩ := h.alike_handle event
  obtain ⟨n, halone, hshared⟩ := hmirrors.grown
  refine ⟨n, halone, hshared, ?_, ?_⟩
  · rw [created_handle_self, Editor.newLayers_eq halone]
  · rw [created_handle_self, Editor.newLayers_eq hshared]

/-- **Its own events** keep a session as it is alone. -/
theorem handle_self (h : Follows i alone shared) (event : Session.Event) :
    Follows i (alone.handle i event) (shared.handle i event) := by
  obtain ⟨hreplies, hsession, hmirrors⟩ := h.alike_handle event
  obtain ⟨n, halone, hshared, hown, hcreated⟩ := h.grown event
  -- the names of the new layers are the numbers that they were going to have
  have hname : (shared.handle i event).nameOf i = shared.nameOf i := by
    rw [nameOf, hcreated, hshared, nameOf_append]
    rfl
  refine ⟨?_, ?_, ?_, ?_, ?_, hreplies, ?_, ?_⟩
  · rw [sessions_handle_self]
    exact h.kept.handle event
  · have hnew := layersAfter_append 0 alone.editor.created n
    rw [Nat.zero_add] at hnew
    rw [hown, h.own, hnew, halone]
  · rw [hcreated, List.length_append, h.length, length_layersAfter, halone]
  · rw [hcreated]
    refine h.nodup.append (nodup_layersAfter _ _) fun id hold hnew => ?_
    exact not_mem_layersAfter (h.there id hold).2 hnew
  · intro id hid
    rw [hcreated, List.mem_append] at hid
    rw [hshared]
    rcases hid with hold | hnew
    · have hle := h.there id hold
      omega
    · have hlt := mem_layersAfter_iff.1 hnew
      omega
  · rw [hname]
    exact hsession
  · rw [hname]
    exact hmirrors.layer?_map

/-- **The events of others** keep a session as it is alone. -/
theorem handle_other (h : Follows i alone shared) (hother : Follows j other shared)
    (hdisjoint : ∀ id ∈ shared.created i, id ∉ shared.created j) (hij : i ≠ j)
    (event : Session.Event) : Follows i alone (shared.handle j event) := by
  obtain ⟨n, -, hshared, -, -⟩ := hother.grown event
  have hcreated : (shared.handle j event).created i = shared.created i :=
    created_handle_of_ne shared event hij
  -- the names of the layers that are there stay
  have hname : ∀ m, m < alone.editor.created →
      (shared.handle j event).nameOf i ⟨m + 1⟩ = shared.nameOf i ⟨m + 1⟩ ∧
        shared.nameOf i ⟨m + 1⟩ ∈ shared.created i := by
    intro m hm
    rw [← h.length] at hm
    rw [nameOf, nameOf, hcreated, nameOf_of_lt hm, nameOf_of_lt hm]
    exact ⟨rfl, List.getElem_mem hm⟩
  refine ⟨h.kept, h.own, ?_, ?_, ?_, ?_, ?_, ?_⟩
  · rw [hcreated, h.length]
  · rw [hcreated]
    exact h.nodup
  · intro id hid
    rw [hcreated] at hid
    have hle := h.there id hid
    rw [hshared]
    omega
  · rw [replies_handle_of_ne shared event hij, h.replies]
  · rw [sessions_handle_of_ne shared event hij, h.session]
    refine Session.rename_congr fun id hid => ?_
    obtain ⟨layer, hlayer⟩ := h.kept.exists_layer?_of_mem hid
    obtain ⟨hpos, hle⟩ := Editor.number_of_layer? hlayer
    obtain ⟨_ | m⟩ := id
    · exact absurd hpos (Nat.lt_irrefl 0)
    · exact (hname m hle).1.symm
  · rintro ⟨_ | m⟩
    · rfl
    · rcases Nat.lt_or_ge m alone.editor.created with hlt | hge
      · obtain ⟨hsame, hmem⟩ := hname m hlt
        rw [hsame, hother.layer?_handle event (hdisjoint _ hmem) (h.there _ hmem)]
        exact h.layer?_nameOf ⟨m + 1⟩
      · -- a layer that is not there alone has no layer under its name either
        have hnumber : (shared.handle j event).editor.created <
            ((shared.handle j event).nameOf i ⟨m + 1⟩).number := by
          rw [nameOf, hcreated, number_nameOf_of_le (by rw [h.length]; exact hge)]
          omega
        have halone : alone.editor.created < m + 1 := Nat.lt_succ_of_le hge
        rw [Editor.layer?_eq_none_of_lt hnumber, Editor.layer?_eq_none_of_lt halone]

end Follows

/-! ## All sessions -/

/-- **What every event keeps.** Each session is as it is alone, no layer belongs to two of them, and
the messages in the shared editor are those that the sessions show alone, one among the other. -/
structure Apart (alone : ι → Sharing ι) (shared : Sharing ι) : Prop where
  /-- Each session is as it is alone. -/
  follows : ∀ i, Follows i (alone i) shared
  /-- No layer was created by two sessions. -/
  disjoint : ∀ i j, i ≠ j → ∀ id ∈ shared.created i, id ∉ shared.created j
  /-- Each message was shown by one of the sessions. -/
  said : ∃ said : List (ι × String), shared.editor.messages = said.map Prod.snd ∧
    ∀ i, (said.filter fun message => message.1 = i).map Prod.snd = (alone i).editor.messages

variable (settings : ι → Handlers × Config × Options)

omit [DecidableEq ι] in
/-- A session that has seen nothing is as it is alone. -/
theorem follows_start (i : ι) : Follows i (start settings) (start settings) where
  kept := Session.kept_start (settings i).1 (settings i).2.1 (settings i).2.2
  own := rfl
  length := rfl
  nodup := .nil
  there _ hid := absurd hid List.not_mem_nil
  replies := rfl
  session := rfl
  layer?_nameOf id := by
    rw [start, Editor.layer?_empty, Editor.layer?_empty]

/-- Sessions that have seen nothing are as they are alone. -/
theorem apart_start : Apart (fun _ => start settings) (start settings) where
  follows := follows_start settings
  disjoint _ _ _ _ hid := absurd hid List.not_mem_nil
  said := ⟨[], rfl, fun _ => rfl⟩

namespace Apart

variable {alone : ι → Sharing ι} {shared : Sharing ι}

/-- A layer that is new belongs to the session whose event it was, and to no other. -/
theorem disjoint_handle (h : Apart alone shared) (j : ι) (event : Session.Event) {i k : ι}
    (hik : i ≠ k) : ∀ id ∈ (shared.handle j event).created i,
      id ∉ (shared.handle j event).created k := by
  obtain ⟨n, -, -, -, hcreated⟩ := (h.follows j).grown event
  -- what is new has numbers that no layer had before
  have hnew : ∀ i, ∀ id ∈ shared.created i, id ∉ layersAfter shared.editor.created n :=
    fun i id hid => not_mem_layersAfter ((h.follows i).there id hid).2
  intro id hid
  by_cases hij : i = j
  · subst hij
    rw [created_handle_of_ne shared event (Ne.symm hik)]
    rw [hcreated, List.mem_append] at hid
    rcases hid with hold | hid
    · exact h.disjoint i k hik id hold
    · exact fun hmem => hnew k id hmem hid
  · rw [created_handle_of_ne shared event hij] at hid
    by_cases hkj : k = j
    · rw [hkj, hcreated, List.mem_append, not_or]
      exact ⟨h.disjoint i j hij id hid, hnew i id hid⟩
    · rw [created_handle_of_ne shared event hkj]
      exact h.disjoint i k hik id hid

/-- A message that is new is one that the session whose event it was shows alone as well. -/
theorem said_handle (h : Apart alone shared) (j : ι) (event : Session.Event) :
    ∃ said : List (ι × String), (shared.handle j event).editor.messages = said.map Prod.snd ∧
      ∀ i, (said.filter fun message => message.1 = i).map Prod.snd =
        (Function.update alone j ((alone j).handle j event) i).editor.messages := by
  obtain ⟨-, -, hmirrors⟩ := (h.follows j).alike_handle event
  obtain ⟨new, halone, hshared⟩ := hmirrors.said
  obtain ⟨said, hsaid, hfilter⟩ := h.said
  refine ⟨said ++ new.map fun message => (j, message), ?_, fun i => ?_⟩
  · rw [hshared, hsaid, List.map_append, List.map_map]
    exact congrArg _ (List.map_id new).symm
  · rw [List.filter_append, List.map_append, hfilter, List.filter_map, List.map_map]
    by_cases hij : i = j
    · subst hij
      rw [Function.update_self, halone]
      simp [Function.comp_def]
    · rw [Function.update_of_ne hij]
      simp [Function.comp_def, Ne.symm hij]

/-- **One event,** of any session. -/
theorem handle (h : Apart alone shared) (j : ι) (event : Session.Event) :
    Apart (Function.update alone j ((alone j).handle j event)) (shared.handle j event) where
  follows i := by
    by_cases hij : i = j
    · rw [hij, Function.update_self]
      exact (h.follows j).handle_self event
    · rw [Function.update_of_ne hij]
      exact (h.follows i).handle_other (h.follows j) (h.disjoint i j hij) hij event
  disjoint _ _ hik := h.disjoint_handle j event hik
  said := h.said_handle j event

end Apart

/-- The sessions and their editor after one more event. -/
theorem run_append_singleton (events : List (ι × Session.Event)) (event : ι × Session.Event) :
    run settings (events ++ [event]) = (run settings events).handle event.1 event.2 := by
  rw [run, List.foldl_append]
  rfl

/-- **All runs.** Each session is as it is when only its own events happen. -/
theorem apart_run (events : List (ι × Session.Event)) :
    Apart (fun i => run settings (events.filter fun event => event.1 = i))
      (run settings events) := by
  induction events using List.reverseRecOn with
  | nil => exact apart_start settings
  | append_singleton events event ih =>
    obtain ⟨j, event⟩ := event
    have hstep := ih.handle j event
    -- the run of the session alone takes the event as well, and those of the others do not
    have halone :
        (fun i => run settings ((events ++ [(j, event)]).filter fun event => event.1 = i)) =
          Function.update (fun i => run settings (events.filter fun event => event.1 = i)) j
            ((run settings (events.filter fun event => event.1 = j)).handle j event) := by
      funext i
      rw [List.filter_append]
      by_cases hij : i = j
      · subst hij
        rw [Function.update_self, ← run_append_singleton settings _ (i, event)]
        simp
      · rw [Function.update_of_ne hij]
        simp [Ne.symm hij]
    rw [halone, run_append_singleton]
    exact hstep

/-- Events of one session alone are a run of that session. -/
theorem run_own {i : ι} {events : List (ι × Session.Event)} (h : ∀ event ∈ events, event.1 = i) :
    ((run settings events).sessions i, (run settings events).editor) =
      ((start settings).sessions i).run .empty (events.map Prod.snd) := by
  induction events using List.reverseRecOn with
  | nil => rfl
  | append_singleton events event ih =>
    obtain ⟨j, event⟩ := event
    obtain rfl : j = i := h (j, event) (by simp)
    have hrest := ih fun event hevent => h event (List.mem_append_left _ hevent)
    rw [run_append_singleton, sessions_handle_self, List.map_append, List.map_singleton,
      Session.run_append_singleton, ← hrest]
    rfl

/-- **What sessions that share an editor do is what each of them does alone.** Take any sessions
with settings of their own, and any events that happen to them in any order. Then every session
gives the answers that it gives when only its own events happen, in an editor of its own; up to
names that tell its layers apart it is the same session, it creates the same layers, and these look
the same. No session ever changes a layer that another created. The messages in the shared editor
are those that the sessions show alone, one among the other. -/
theorem run_like_alone (events : List (ι × Session.Event)) :
    let shared := run settings events
    let own := fun i => events.filter fun event => event.1 = i
    let alone := fun i => run settings (own i)
    (∀ i, ((alone i).sessions i, (alone i).editor) =
      Session.run (.start (settings i).1 (settings i).2.1 (settings i).2.2) .empty
        ((own i).map Prod.snd)) ∧
    (∀ i, ∃ rename : LayerId → LayerId, Function.Injective rename ∧
      shared.replies i = (alone i).replies i ∧
      shared.sessions i = ((alone i).sessions i).rename rename ∧
      shared.created i = ((alone i).created i).map rename ∧
      ∀ id, shared.editor.layer? (rename id) = (alone i).editor.layer? id) ∧
    (∀ i j, i ≠ j → ∀ id ∈ shared.created i, id ∉ shared.created j ∧
      ∀ event, (shared.handle j event).editor.layer? id = shared.editor.layer? id) ∧
    ∃ said : List (ι × String), shared.editor.messages = said.map Prod.snd ∧
      ∀ i, (said.filter fun message => message.1 = i).map Prod.snd =
        (alone i).editor.messages := by
  intro shared own alone
  have hapart : Apart alone shared := apart_run settings events
  refine ⟨fun i => ?_, fun i => ?_, fun i j hij id hid => ?_, hapart.said⟩
  · exact run_own settings fun event hevent => by simpa using (List.mem_filter.1 hevent).2
  · have hfollows : Follows i (alone i) shared := hapart.follows i
    refine ⟨shared.nameOf i, hfollows.naming.injective, hfollows.replies, hfollows.session, ?_,
      hfollows.layer?_nameOf⟩
    rw [hfollows.own, ← hfollows.length, nameOf, map_nameOf]
  · have hnot : id ∉ shared.created j := hapart.disjoint i j hij id hid
    refine ⟨hnot, fun event => ?_⟩
    exact (hapart.follows j).layer?_handle event hnot ((hapart.follows i).there id hid)

end Sharing
end BorrowSketch
