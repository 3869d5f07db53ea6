import DeliveryStore.CommandLine.Invocation
import Mathlib.Data.List.TakeWhile
import Mathlib.Tactic.Common

/-!
# What command lines say

A word of a command line in which an option and its value stand side by side is read as that option
with that value, whatever characters the value has; a command hands the words after it on as they
are, and everything after two dashes is an operand. Only a value that is two dashes itself is lost.
Main statements:

* `Grammar.tokens_words` — no word is changed by giving it a role;
* `Grammar.classify_assigned` — a value that is assigned to an option is read as it is;
* `Invocation.read_purge`, `Invocation.read_stats` — how a purge and a count are read.
-/

namespace DeliveryStore.CommandLine

/-! ## Words and their roles -/

/-- A word keeps its characters when it is given a role. -/
theorem Grammar.word_of_classify {g : Grammar} {word : String} {t : Token}
    (h : g.classify word = .ok t) : t.word = word := by
  unfold classify at h
  split at h
  · split at h
    · cases h
      rfl
    split at h
    · cases h
      rfl
    dsimp only at h
    split at h
    · cases h
      rfl
    split at h
    · cases h
      rfl
    · split at h <;> cases h <;> rfl
    · cases h
  · cases h
    rfl

/-- No word is changed by giving it a role. -/
theorem Grammar.tokens_words {g : Grammar} {words : List String} {ts : List Token}
    (h : g.tokens words = .ok ts) : ts.map Token.word = words := by
  induction words generalizing ts with
  | nil =>
    cases h
    rfl
  | cons word rest ih =>
    unfold tokens at h
    split at h
    · rename_i hdashes
      cases h
      have hwords : Token.word ∘ Token.operand = id := rfl
      rw [List.map_cons, List.map_map, hwords, List.map_id, hdashes]
      rfl
    · cases ht : g.classify word with
      | error stop =>
        rw [ht] at h
        cases h
      | ok t =>
        cases hts : g.tokens rest with
        | error stop =>
          rw [ht, hts] at h
          cases h
        | ok ts' =>
          rw [ht, hts] at h
          cases h
          rw [List.map_cons, word_of_classify ht, ih hts]

/-! ## Options with their values -/

/-- No spelling of an option has an equals sign in it. -/
theorem Flag.not_mem_spellings (f : Flag) : ∀ s ∈ f.spellings, '=' ∉ s.toList := by
  cases f <;> decide

variable {g : Grammar} {option value : String} {f : Flag}

theorem toList_assigned (option value : String) :
    (option ++ "=" ++ value).toList = option.toList ++ '=' :: value.toList := by
  simp

/-- A word with an equals sign is no spelling of an option. -/
theorem Grammar.lookup_assigned (g : Grammar) (option value : String) :
    g.spellings.lookup (option ++ "=" ++ value) = none := by
  rw [List.lookup_eq_none_iff]
  intro s hs
  unfold spellings at hs
  obtain ⟨f, -, hf⟩ := List.mem_flatMap.1 hs
  obtain ⟨spelling, hspelling, rfl⟩ := List.mem_map.1 hf
  refine bne_iff_ne.2 ?_
  rintro rfl
  refine f.not_mem_spellings _ hspelling ?_
  rw [toList_assigned]
  simp

/-- A long option before an equals sign is told apart from its value. -/
theorem takeWhile_assigned (value : String) (ho : '=' ∉ option.toList) :
    (option ++ "=" ++ value).toList.takeWhile (· ≠ '=') = option.toList ∧
      (option ++ "=" ++ value).toList.dropWhile (· ≠ '=') = '=' :: value.toList := by
  have hall : ∀ c ∈ option.toList, decide (c ≠ '=') = true := by
    intro c hc
    refine decide_eq_true ?_
    rintro rfl
    exact ho hc
  rw [toList_assigned, List.takeWhile_append_of_pos hall, List.dropWhile_append_of_pos hall]
  simp

/-- A value that is assigned to an option is read as it is. -/
theorem Grammar.classify_assigned {more : List Char} (hd : option.toList = '-' :: more)
    (ho : '=' ∉ option.toList) (hf : g.spellings.lookup option = some f) :
    g.classify (option ++ "=" ++ value) =
      .ok (.known (option ++ "=" ++ value) f (some (.assigned value))) := by
  obtain ⟨htake, hdrop⟩ := takeWhile_assigned value ho
  have hlist : (option ++ "=" ++ value).toList = '-' :: (more ++ '=' :: value.toList) := by
    rw [toList_assigned, hd]
    rfl
  unfold classify
  rw [g.lookup_assigned]
  split
  swap
  · rename_i hother
    exact absurd hlist (hother _)
  rename_i rest hrest
  have hrest' : rest.isEmpty = false := by
    rw [← (List.cons.inj (hlist.symm.trans hrest)).2]
    simp
  dsimp only
  rw [hrest', if_neg Bool.false_ne_true, htake, hdrop, String.ofList_toList, hf]
  dsimp only
  rw [String.ofList_toList]

/-- A word that assigns a value to what is no option, whole or cut short, is some word to the program
as a whole. -/
theorem Grammar.classify_foreign {more : List Char} (hd : option.toList = '-' :: '-' :: more)
    (ho : '=' ∉ option.toList) (hf : g.spellings.lookup option = none)
    (hs : (g.spellings.filter fun s => option.toList.isPrefixOf s.1.toList) = []) :
    ∃ t, g.classify (option ++ "=" ++ value) = .ok t := by
  obtain ⟨htake, hdrop⟩ := takeWhile_assigned value ho
  have hlist : (option ++ "=" ++ value).toList = '-' :: '-' :: (more ++ '=' :: value.toList) := by
    rw [toList_assigned, hd]
    rfl
  have hreadings : g.readings (option ++ "=" ++ value) = [] := by
    unfold readings
    split
    · dsimp only
      rw [htake, hs]
      rfl
    · rename_i hother heq
      exact absurd (List.cons.inj (List.cons.inj (heq.symm.trans hlist)).2).1 hother
    · rename_i hother
      exact absurd hlist (hother '-' _)
  unfold classify
  rw [g.lookup_assigned, hreadings]
  split
  swap
  · exact ⟨_, rfl⟩
  rename_i rest hrest
  have hrest' : rest.isEmpty = false := by
    rw [← (List.cons.inj (hlist.symm.trans hrest)).2]
    rfl
  dsimp only
  rw [hrest', if_neg Bool.false_ne_true, htake, hdrop, String.ofList_toList, hf]
  dsimp only
  split <;> exact ⟨_, rfl⟩

/-! ## Sorting options with their values -/

/-- What an option is given by a value: nothing, if that is two dashes. -/
def taken (value : String) : Option String := if value = "--" then none else some value

theorem taken_of_ne (h : value ≠ "--") : taken value = some value := if_neg h

/-- An option of free choice is set to the value that is assigned to it, unless that is lost. -/
theorem Grammar.sort_assigned {s : Sorted} {word : String} {ts : List Token}
    (hh : f ≠ .help) (hc : f.choices = none) :
    g.sort s (.known word f (some (.assigned value)) :: ts) =
      g.sort { s with values := (f, taken value) :: s.values } ts := by
  have hset : s.set g f value = .ok { s with values := (f, taken value) :: s.values } := by
    unfold Sorted.set taken
    rw [hc]
    split <;> rfl
  rw [sort]
  · change (s.set g f value).bind _ = _
    rw [hset]
    rfl
  · exact hh

/-! ## Command lines -/

/-- A word that assigns a value to an option is not two dashes. -/
theorem assigned_ne_dashes : option ++ "=" ++ value ≠ "--" := by
  intro h
  have hequals : '=' ∈ (option ++ "=" ++ value).toList := by
    rw [toList_assigned]
    simp
  rw [h] at hequals
  revert hequals
  decide

/-- Two options with their values are read one after the other. -/
theorem Grammar.tokens_assigned {option' value' : String} {t t' : Token}
    (h : g.classify (option ++ "=" ++ value) = .ok t)
    (h' : g.classify (option' ++ "=" ++ value') = .ok t') :
    g.tokens [option ++ "=" ++ value, option' ++ "=" ++ value'] = .ok [t, t'] := by
  rw [tokens, if_neg assigned_ne_dashes, h, tokens, if_neg assigned_ne_dashes, h']
  rfl

/-- A command takes all words that follow it as they are. -/
theorem sort_command (s : Grammar.Sorted) (name : String) (ts : List Token) :
    mainGrammar.sort s (.operand name :: ts) =
      .ok { s with operands := name :: ts.map Token.word } := by
  unfold Grammar.sort
  rfl

/-- A command line that names the database in a word of its own is the command with all words that
follow it, and the address as it is written. -/
theorem read_url {url name : String} {rest : List String} {ts : List Token}
    (hn : name.toList.head? ≠ some '-') (hts : mainGrammar.tokens rest = .ok ts) :
    mainGrammar.read (("--url" ++ "=" ++ url) :: name :: rest) =
      .ok { values := [(.url, taken url)], operands := name :: rest } := by
  have hurl : mainGrammar.classify ("--url" ++ "=" ++ url) =
      .ok (.known ("--url" ++ "=" ++ url) .url (some (.assigned url))) :=
    Grammar.classify_assigned (g := mainGrammar) rfl (by decide) rfl
  have hname : mainGrammar.classify name = .ok (.operand name) := by
    unfold Grammar.classify
    split
    · rename_i more hmore
      exact absurd (congrArg List.head? hmore) hn
    · rfl
  have hdashes : name ≠ "--" := by
    rintro rfl
    exact hn rfl
  have htokens : mainGrammar.tokens (("--url" ++ "=" ++ url) :: name :: rest) =
      .ok (.known ("--url" ++ "=" ++ url) .url (some (.assigned url)) :: .operand name :: ts) := by
    rw [Grammar.tokens, if_neg assigned_ne_dashes, hurl, Grammar.tokens, if_neg hdashes, hname, hts]
    rfl
  have hsort : mainGrammar.sort {}
      (.known ("--url" ++ "=" ++ url) .url (some (.assigned url)) :: .operand name :: ts) =
        .ok { values := [(.url, taken url)], operands := name :: rest } := by
    rw [Grammar.sort_assigned (f := .url) nofun rfl, sort_command, Grammar.tokens_words hts]
  unfold Grammar.read
  rw [htokens]
  change (mainGrammar.sort {} _).bind _ = _
  rw [hsort]
  rfl

/-- What a program as a whole and one of its commands read of a line, if nothing is left over, is the
invocation; a count needs something to count. -/
theorem Invocation.read_eq {words : List String} {s : Grammar.Sorted} {command : Command}
    (hs : mainGrammar.read words = .ok s) (hleft : s.leftOver = [])
    (hc : Command.read (s.operands.headD "") s.operands.tail = .ok (command, []))
    (hg : ∀ recipient client, command = .stats recipient client →
      isGiven recipient = true ∨ isGiven client = true) :
    Invocation.read words = .ok { url := s.value? .url, command } := by
  unfold Invocation.read
  rw [hs]
  change (Command.read _ _).bind _ = _
  rw [hc]
  change (if !(s.leftOver ++ []).isEmpty then _ else _) = _
  rw [hleft]
  cases command with
  | stats recipient client =>
    have hgiven : (!isGiven recipient && !isGiven client) = false := by
      obtain hr | hc := hg recipient client rfl
      · rw [hr]
        rfl
      · rw [hc, Bool.not_true, Bool.and_false]
    change (if (!isGiven recipient && !isGiven client) = true then _ else _) = _
    rw [hgiven]
    rfl
  | init | purge => rfl

/-- A purge of a name after two dashes is read as a purge of just that name. -/
theorem Invocation.read_purge (url recipient : String) :
    Invocation.read ["--url=" ++ url, "purge", "--", recipient] =
      .ok { url := taken url, command := .purge recipient } := by
  change Invocation.read ["--url" ++ "=" ++ url, "purge", "--", recipient] = _
  have htokens : mainGrammar.tokens ["--", recipient] = .ok [.dashes, .operand recipient] := rfl
  exact Invocation.read_eq (read_url (by decide) htokens) rfl rfl nofun

/-- What is given and not empty is there, unless it is lost. -/
theorem isGiven_taken (h : value ≠ "") : isGiven (taken value) = (value != "--") := by
  by_cases hd : value = "--"
  · rw [hd]
    rfl
  · rw [taken_of_ne hd, bne_iff_ne.2 hd]
    exact bne_iff_ne.2 h

/-- A count of a queue and of the packages of a client is read with the names as they are, unless
they are lost; at least one has to be there. -/
theorem Invocation.read_stats {recipient client : String} (url : String) (hr : recipient ≠ "")
    (hc : client ≠ "") (hd : recipient = "--" → client ≠ "--") :
    Invocation.read ["--url=" ++ url, "stats", "--recipient=" ++ recipient,
        "--client-id=" ++ client] =
      .ok { url := taken url, command := .stats (taken recipient) (taken client) } := by
  change Invocation.read ["--url" ++ "=" ++ url, "stats", "--recipient" ++ "=" ++ recipient,
    "--client-id" ++ "=" ++ client] = _
  obtain ⟨t₁, ht₁⟩ : ∃ t, mainGrammar.classify ("--recipient" ++ "=" ++ recipient) = .ok t :=
    Grammar.classify_foreign rfl (by decide) rfl (by decide)
  obtain ⟨t₂, ht₂⟩ : ∃ t, mainGrammar.classify ("--client-id" ++ "=" ++ client) = .ok t :=
    Grammar.classify_foreign rfl (by decide) rfl (by decide)
  have houter := Grammar.tokens_assigned ht₁ ht₂
  have h₁ : statsGrammar.classify ("--recipient" ++ "=" ++ recipient) =
      .ok (.known ("--recipient" ++ "=" ++ recipient) .recipient (some (.assigned recipient))) :=
    Grammar.classify_assigned (g := statsGrammar) rfl (by decide) rfl
  have h₂ : statsGrammar.classify ("--client-id" ++ "=" ++ client) =
      .ok (.known ("--client-id" ++ "=" ++ client) .clientId (some (.assigned client))) :=
    Grammar.classify_assigned (g := statsGrammar) rfl (by decide) rfl
  have hinner : statsGrammar.read
      ["--recipient" ++ "=" ++ recipient, "--client-id" ++ "=" ++ client] =
        .ok { values := [(.clientId, taken client), (.recipient, taken recipient)] } := by
    unfold Grammar.read
    rw [Grammar.tokens_assigned h₁ h₂]
    change (statsGrammar.sort {} [_, _]).bind _ = _
    rw [Grammar.sort_assigned (f := .recipient) nofun rfl,
      Grammar.sort_assigned (f := .clientId) nofun rfl]
    rfl
  have hcommand : Command.read "stats"
      ["--recipient" ++ "=" ++ recipient, "--client-id" ++ "=" ++ client] =
        .ok (.stats (taken recipient) (taken client), []) := by
    change (statsGrammar.read _).bind _ = _
    rw [hinner]
    rfl
  refine Invocation.read_eq (read_url (by decide) houter) rfl hcommand ?_
  rintro _ _ ⟨⟩
  rw [isGiven_taken hr, isGiven_taken hc]
  by_cases hdashes : recipient = "--"
  · exact Or.inr (bne_iff_ne.2 (hd hdashes))
  · exact Or.inl (bne_iff_ne.2 hdashes)

/-- A count of two names that are both lost has nothing to count. -/
theorem Invocation.read_stats_of_dashes (url : String) :
    Invocation.read ["--url=" ++ url, "stats", "--recipient=--", "--client-id=--"] =
      .error (.problem mainGrammar .nothingToCount) := by
  change Invocation.read ["--url" ++ "=" ++ url, "stats", "--recipient=--", "--client-id=--"] = _
  have htokens : mainGrammar.tokens ["--recipient=--", "--client-id=--"] =
      .ok [.unknown "--recipient=--", .unknown "--client-id=--"] := rfl
  unfold Invocation.read
  rw [read_url (by decide) htokens]
  rfl

end DeliveryStore.CommandLine
