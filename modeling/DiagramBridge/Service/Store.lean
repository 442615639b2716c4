import DiagramBridge.Conversion.Session

/-!
# The store of sessions

The sessions that a service keeps, each under its id, in the order in which they were created. A
session stays in its place when it changes, and no two sessions have the same id.
-/

namespace DiagramBridge.Service

/-- The entries with a session under the given id, in the place of the one that was there or at the
end. -/
def putEntry (id : String) (session : Session) : List (String × Session) → List (String × Session)
  | [] => [(id, session)]
  | entry :: entries =>
    if entry.1 = id then (id, session) :: entries else entry :: putEntry id session entries

theorem map_fst_putEntry_of_mem {id : String} (session : Session)
    {entries : List (String × Session)} (h : id ∈ entries.map (·.1)) :
    (putEntry id session entries).map (·.1) = entries.map (·.1) := by
  induction entries with
  | nil => simp at h
  | cons entry entries ih =>
      rw [putEntry]
      by_cases heq : entry.1 = id
      · rw [if_pos heq, List.map_cons, List.map_cons, heq]
      · have hrest : id ∈ entries.map (·.1) := by
          simpa [Ne.symm heq] using h
        rw [if_neg heq, List.map_cons, List.map_cons, ih hrest]

theorem putEntry_of_not_mem {id : String} (session : Session) {entries : List (String × Session)}
    (h : id ∉ entries.map (·.1)) : putEntry id session entries = entries ++ [(id, session)] := by
  induction entries with
  | nil => rfl
  | cons entry entries ih =>
      rw [List.map_cons, List.mem_cons, not_or] at h
      rw [putEntry, if_neg (Ne.symm h.1), ih h.2, List.cons_append]

theorem nodup_putEntry (id : String) (session : Session) {entries : List (String × Session)}
    (h : (entries.map (·.1)).Nodup) : ((putEntry id session entries).map (·.1)).Nodup := by
  by_cases hmem : id ∈ entries.map (·.1)
  · rwa [map_fst_putEntry_of_mem session hmem]
  · rw [putEntry_of_not_mem session hmem, List.map_append, List.nodup_append]
    refine ⟨h, by simp, fun a ha b hb heq => hmem ?_⟩
    have hb : b = id := by simpa using hb
    rwa [heq, hb] at ha

/-- Sessions by id. -/
structure Store where
  entries : List (String × Session)
  nodup_ids : (entries.map (·.1)).Nodup
  deriving DecidableEq

namespace Store

/-- The store without sessions. -/
def empty : Store := ⟨[], List.nodup_nil⟩

def get? (s : Store) (id : String) : Option Session :=
  s.entries.lookup id

/-- The ids of the sessions. -/
def ids (s : Store) : List String :=
  s.entries.map (·.1)

/-- The number of sessions. -/
def size (s : Store) : Nat :=
  s.entries.length

/-- Puts a session under an id. -/
def put (s : Store) (id : String) (session : Session) : Store :=
  ⟨putEntry id session s.entries, nodup_putEntry id session s.nodup_ids⟩

/-- The sessions whose ids are of a certain kind. -/
def restrict (s : Store) (p : String → Bool) : Store :=
  ⟨s.entries.filter (p ·.1), s.nodup_ids.sublist (List.filter_sublist.map _)⟩

/-- Removes the session with the given id. -/
def erase (s : Store) (id : String) : Store :=
  s.restrict (· != id)

end Store

end DiagramBridge.Service
