import TablePipeline.Number.Integer

/-!
# JSON values

The values of JSON texts.  A number is kept as it is written, so that no digit is lost; the members
of an object keep their order.

## Main definitions

* `JsonValue` — the values
* `JsonValue.putMember` — an object with one more member
* `JsonValue.ofInteger` — an integer as a number
-/

namespace TablePipeline

/-- The value of a JSON text. -/
inductive JsonValue
  | null
  | boolean (b : Bool)
  /-- A number, by its text. -/
  | number (text : List Char)
  | string (s : String)
  | array (items : List JsonValue)
  | object (members : List (String × JsonValue))

instance : Inhabited JsonValue := ⟨.null⟩

/-- The members of an object, in order. -/
abbrev Members := List (String × JsonValue)

namespace JsonValue

/-- The members with one more.  A name that is already there keeps its place and takes the new
value. -/
def putMember (name : String) (v : JsonValue) : Members → Members
  | [] => [(name, v)]
  | (other, w) :: rest =>
    if other = name then (name, v) :: rest else (other, w) :: putMember name v rest

/-- The members of an object as written, each name once. -/
def collectMembers (written : Members) : Members :=
  written.foldl (fun members (name, v) => putMember name v members) []

/-- The value of the member with a given name. -/
def member? (name : String) : Members → Option JsonValue
  | [] => none
  | (other, v) :: rest => if other = name then some v else member? name rest

/-- An integer as a number. -/
def ofInteger (z : Int) : JsonValue :=
  .number (integerText z)

/-- A new member has a place of its own or that of the one it replaces. -/
theorem mem_map_fst_putMember {name other : String} {v : JsonValue} {members : Members} :
    other ∈ (putMember name v members).map Prod.fst ↔
      other = name ∨ other ∈ members.map Prod.fst := by
  fun_induction putMember name v members with
  | case1 => simp
  | case2 => simp_all
  | case3 w rest _ _ ih => simp only [List.map_cons, List.mem_cons, ih]; grind

/-- No name becomes repeated. -/
theorem nodup_putMember {name : String} {v : JsonValue} {members : Members}
    (h : (members.map Prod.fst).Nodup) : ((putMember name v members).map Prod.fst).Nodup := by
  fun_induction putMember name v members with
  | case1 => simp
  | case2 => simp_all
  | case3 other w rest hne ih =>
    rw [List.map_cons, List.nodup_cons] at h ⊢
    refine ⟨fun hmem => ?_, ih h.2⟩
    rcases mem_map_fst_putMember.1 hmem with heq | hmem
    · exact hne heq
    · exact h.1 hmem

/-- The collected members have distinct names. -/
theorem nodup_collectMembers (written : Members) :
    ((collectMembers written).map Prod.fst).Nodup := by
  suffices h : ∀ start : Members, (start.map Prod.fst).Nodup →
      ((written.foldl (fun members (name, v) => putMember name v members) start).map
        Prod.fst).Nodup from h [] List.nodup_nil
  induction written with
  | nil => exact fun _ h => h
  | cons m rest ih => exact fun _ h => ih _ (nodup_putMember h)

end JsonValue

end TablePipeline
