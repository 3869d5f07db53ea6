import DeliveryStore.Proofs.Remarks

/-!
# Paths of groups

The headers of a group are made name by name. Seen from the group as a text they are those of the paths
that lead to it: the group itself, and every path from which the group goes on with a slash. Empty
names count, so that the empty path leads to every group that begins with a slash. Main statements:

* `mem_headers_components_iff` — the headers of a group are those of the paths that lead to it;
* `headers_sorted` — outer headers come before inner ones, so that none comes twice;
* `announce_eq` — what is printed of the headers are those that had not been printed, in their order.
-/

namespace DeliveryStore.Log

variable {above : Option String} {depth : Nat} {names printed : List String}
  {path middle group name : String}

/-! ## Paths that lead to a group -/

/-- A path leads to a group if it is the group or the group goes on from it with a slash. -/
def Leads (path group : String) : Prop := path = group ∨ ∃ rest, group = path ++ "/" ++ rest

theorem Leads.refl (group : String) : Leads group group := .inl rfl

theorem Leads.trans (h : Leads path middle) (h' : Leads middle group) : Leads path group := by
  rcases h with rfl | ⟨rest, rfl⟩
  · exact h'
  · rcases h' with rfl | ⟨rest', rfl⟩
    · exact .inr ⟨rest, rfl⟩
    · refine .inr ⟨rest ++ "/" ++ rest', ?_⟩
      simp only [String.append_assoc]

/-- Another path that leads to a group is shorter than the group. -/
theorem Leads.length_lt (h : Leads path group) (hne : path ≠ group) : path.length < group.length := by
  rcases h with rfl | ⟨rest, rfl⟩
  · exact absurd rfl hne
  · have hslash : "/".length = 1 := rfl
    simp only [String.length_append, hslash]
    omega

/-- To a single name leads nothing else. -/
theorem leads_name_iff (hname : '/' ∉ name.toList) : Leads path name ↔ path = name := by
  constructor
  · rintro (rfl | ⟨rest, rfl⟩)
    · rfl
    · refine absurd ?_ hname
      simp [String.toList_append]
  · rintro rfl
    exact .refl _

/-- To a path of several names leads the first one, and what leads from there to the rest. -/
theorem leads_cons_iff {rest : String} (hname : '/' ∉ name.toList) :
    Leads path (name ++ "/" ++ rest) ↔
      path = name ∨ ∃ further, path = name ++ "/" ++ further ∧ Leads further rest := by
  constructor
  · rintro (rfl | ⟨after, heq⟩)
    · exact .inr ⟨rest, rfl, .refl rest⟩
    -- Two ways of cutting one text at a slash: the cut of the path is not inside the first name.
    have hchars : name.toList ++ '/' :: rest.toList = path.toList ++ '/' :: after.toList := by
      simpa [String.toList_append, List.append_assoc] using congrArg String.toList heq
    rcases List.append_eq_append_iff.1 hchars with ⟨between, hpath, hrest⟩ | ⟨between, hinside, hafter⟩
    · rcases List.cons_eq_append_iff.1 hrest with ⟨rfl, -⟩ | ⟨further, rfl, hfurther⟩
      · left
        exact String.toList_injective (by simpa using hpath)
      · right
        refine ⟨String.ofList further, String.toList_injective ?_, .inr ⟨after, ?_⟩⟩
        · simp [String.toList_append, hpath]
        · exact String.toList_injective (by simp [String.toList_append, hfurther])
    · rcases List.cons_eq_append_iff.1 hafter with ⟨rfl, -⟩ | ⟨further, rfl, -⟩
      · left
        exact String.toList_injective (by simpa using hinside.symm)
      · exact absurd (by simp [hinside]) hname
  · rintro (rfl | ⟨further, rfl, h⟩)
    · exact .inr ⟨rest, rfl⟩
    · rcases h with rfl | ⟨after, rfl⟩
      · exact .refl _
      · refine .inr ⟨after, ?_⟩
        simp only [String.append_assoc]

/-! ## Names of a path -/

/-- No part of a text that is split at slashes has a slash. -/
theorem slash_not_mem_of_mem_splitOn {chars part : List Char} (h : part ∈ chars.splitOn '/') :
    '/' ∉ part := by
  induction chars generalizing part with
  | nil =>
    rw [List.mem_singleton.1 h]
    exact List.not_mem_nil
  | cons c rest ih =>
    rw [List.splitOn, List.splitOnP_cons_eq_if_modifyHead] at h
    split at h
    · rcases List.mem_cons.1 h with rfl | h
      · exact List.not_mem_nil
      · exact ih h
    · rename_i hc
      -- The first character belongs to the first part.
      obtain ⟨first, others, hsplit⟩ := List.exists_cons_of_ne_nil
        (List.splitOnP_ne_nil (· == '/') rest)
      rw [hsplit, List.modifyHead_cons] at h
      have hparts : ∀ part ∈ first :: others, '/' ∉ part := by
        intro part hpart
        rw [← hsplit] at hpart
        exact ih hpart
      rcases List.mem_cons.1 h with rfl | h
      · intro hmem
        rcases List.mem_cons.1 hmem with rfl | hmem
        · exact hc rfl
        · exact hparts first List.mem_cons_self hmem
      · exact hparts part (List.mem_cons_of_mem _ h)

/-- The names of a path have no slashes. -/
theorem slash_not_mem_components (h : name ∈ components group) : '/' ∉ name.toList := by
  obtain ⟨part, hpart, rfl⟩ := List.mem_map.1 h
  rw [String.toList_ofList]
  exact slash_not_mem_of_mem_splitOn hpart

theorem components_ne_nil (group : String) : components group ≠ [] := by
  intro h
  exact List.splitOnP_ne_nil _ _ (List.map_eq_nil_iff.1 h)

/-- A path is its names with slashes between them. -/
theorem intercalate_components (group : String) : "/".intercalate (components group) = group := by
  have hparts : (components group).map String.toList = group.toList.splitOn '/' := by
    simp [components, Function.comp_def]
  apply String.toList_injective
  rw [String.toList_intercalate, hparts]
  exact List.intercalate_splitOn '/'

theorem components_name (hname : '/' ∉ name.toList) : components name = [name] := by
  have hwhole : name.toList.splitOn '/' = [name.toList] := by
    refine List.splitOnP_eq_singleton ?_
    rintro c hc
    rw [beq_eq_false_iff_ne]
    rintro rfl
    exact hname hc
  rw [components, hwhole, List.map_singleton, String.ofList_toList]

/-- The names of the path above, of which there are none at the top. -/
def namesAbove (above : Option String) : List String := (above.map components).getD []

/-- One name further down, a path has one name more. -/
theorem components_below (above : Option String) (hname : '/' ∉ name.toList) :
    components (below above name) = namesAbove above ++ [name] := by
  cases above with
  | none => exact components_name hname
  | some path =>
    have hchars : (path ++ "/" ++ name).toList = path.toList ++ '/' :: name.toList := by
      simp [String.toList_append]
    have hsplit : components (path ++ "/" ++ name) = components path ++ components name := by
      have hcut := List.splitOnP_append_cons (p := (· == '/')) path.toList name.toList
        (beq_self_eq_true '/')
      rw [components, hchars, List.splitOn, hcut, List.map_append]
      rfl
    show components (path ++ "/" ++ name) = components path ++ [name]
    rw [hsplit, components_name hname]

/-! ## The headers of a group -/

/-- The headers below a path are those at the top, behind the path and a slash. -/
theorem mem_headers_below_iff {outer : String} :
    path ∈ headers (some outer) names ↔
      ∃ inner, path = outer ++ "/" ++ inner ∧ inner ∈ headers none names := by
  induction names generalizing outer path with
  | nil => simp [headers]
  | cons name rest ih =>
    constructor
    · intro h
      rcases List.mem_cons.1 h with rfl | h
      · exact ⟨name, rfl, List.mem_cons_self⟩
      · obtain ⟨inner, rfl, hinner⟩ := ih.1 h
        refine ⟨name ++ "/" ++ inner, ?_, List.mem_cons_of_mem _ (ih.2 ⟨inner, rfl, hinner⟩)⟩
        simp only [below, String.append_assoc]
    · rintro ⟨inner, rfl, h⟩
      rcases List.mem_cons.1 h with rfl | h
      · exact List.mem_cons_self
      · obtain ⟨further, rfl, hfurther⟩ := ih.1 h
        refine List.mem_cons_of_mem _ (ih.2 ⟨further, ?_, hfurther⟩)
        simp only [below, String.append_assoc]

theorem mem_headers_iff (hnames : ∀ name ∈ names, '/' ∉ name.toList) (hne : names ≠ []) :
    path ∈ headers none names ↔ Leads path ("/".intercalate names) := by
  induction names generalizing path with
  | nil => exact absurd rfl hne
  | cons name rest ih =>
    have hname := hnames name List.mem_cons_self
    have hbelow : headers none (name :: rest) = name :: headers (some name) rest := rfl
    rw [hbelow, List.mem_cons, mem_headers_below_iff]
    cases rest with
    | nil =>
      rw [String.intercalate_singleton, leads_name_iff hname]
      simp [headers]
    | cons second others =>
      rw [String.intercalate_cons_cons, leads_cons_iff hname]
      simp only [ih (fun n hn => hnames n (List.mem_cons_of_mem _ hn)) (List.cons_ne_nil _ _)]

/-- The headers of a group are those of the paths that lead to it. -/
theorem mem_headers_components_iff :
    path ∈ headers none (components group) ↔ Leads path group := by
  rw [mem_headers_iff (fun _ => slash_not_mem_components) (components_ne_nil group),
    intercalate_components]

/-- Everything below a path is longer. -/
theorem length_lt_of_mem_headers {outer : String} (h : path ∈ headers (some outer) names) :
    outer.length < path.length := by
  obtain ⟨inner, rfl, -⟩ := mem_headers_below_iff.1 h
  have hslash : "/".length = 1 := rfl
  simp only [String.length_append, hslash]
  omega

/-- Outer headers come before inner ones. -/
theorem headers_sorted (above : Option String) (names : List String) :
    (headers above names).Pairwise fun outer inner => outer.length < inner.length := by
  induction names generalizing above with
  | nil => exact .nil
  | cons name rest ih => exact .cons (fun _ => length_lt_of_mem_headers) (ih _)

/-! ## Printing headers -/

/-- The header line of a path: its last name, as far in as the path has names before it. -/
def headerText (path : String) (ends : Bool) : String :=
  headerLine ((components path).length - 1) ends ((components path).getLastD "")

/-- The paths of the headers below `above`, each with whether it ends the group. -/
def rungs (above : Option String) : List String → List (String × Bool)
  | [] => []
  | name :: rest => (below above name, rest.isEmpty) :: rungs (some (below above name)) rest

theorem rungs_map (above : Option String) (names : List String) :
    (rungs above names).map (·.1) = headers above names := by
  induction names generalizing above with
  | nil => rfl
  | cons name rest ih => exact congrArg _ (ih _)

/-- The rungs that have not been printed. -/
def newRungs (printed : List String) (above : Option String) (names : List String) :
    List (String × Bool) :=
  (rungs above names).filter fun r => !printed.contains r.1

/-- Of the headers those are printed that had not been, and they count as printed from then on. -/
theorem announce_eq (hnames : ∀ name ∈ names, '/' ∉ name.toList)
    (hdepth : depth = (namesAbove above).length) :
    announce above depth printed names =
      (String.join ((newRungs printed above names).map fun r => headerText r.1 r.2),
        printed ++ (newRungs printed above names).map (·.1)) := by
  induction names generalizing above depth printed with
  | nil => simp [announce, newRungs, rungs]
  | cons name rest ih =>
    have hname := hnames name List.mem_cons_self
    have hrest : ∀ n ∈ rest, '/' ∉ n.toList := fun n hn => hnames n (List.mem_cons_of_mem _ hn)
    have hcomponents := components_below above hname
    have hdeeper : depth + 1 = (namesAbove (some (below above name))).length := by
      simp [namesAbove, hcomponents, hdepth]
    by_cases hprinted : printed.contains (below above name) = true
    · have hnew : newRungs printed above (name :: rest) =
          newRungs printed (some (below above name)) rest := by
        simp only [newRungs, rungs, List.filter_cons, hprinted, Bool.not_true, Bool.false_eq_true,
          if_false]
      rw [hnew, ← ih hrest hdeeper]
      simp only [announce, hprinted, if_true]
    · have hnew : newRungs printed above (name :: rest) =
          (below above name, rest.isEmpty) :: newRungs printed (some (below above name)) rest := by
        simp only [newRungs, rungs, List.filter_cons, hprinted, Bool.not_false, if_true]
      -- The path itself is none of those below it.
      have hsame : newRungs (printed ++ [below above name]) (some (below above name)) rest =
          newRungs printed (some (below above name)) rest := by
        refine List.filter_congr ?_
        intro r hr
        have hlonger := length_lt_of_mem_headers
          ((rungs_map (some (below above name)) rest) ▸ List.mem_map_of_mem hr)
        have hne : r.1 ≠ below above name := by
          intro heq
          rw [heq] at hlonger
          exact Nat.lt_irrefl _ hlonger
        simp [hne]
      have hline : headerText (below above name) rest.isEmpty =
          headerLine depth rest.isEmpty name := by
        simp [headerText, hcomponents, hdepth]
      rw [hnew]
      simp only [announce, hprinted, if_false, Bool.false_eq_true, ih hrest hdeeper, hsame,
        List.map_cons, String.join_cons, hline, List.append_assoc, List.singleton_append]

/-- A group whose names are empty has as many headers as it has names. -/
example : (Thread.announce {} (some "/a//")).1 =
    "├───\n    ├───a\n        ├───\n            └───\n" := by decide

end DeliveryStore.Log
