import DeliveryStore.Handle
import DeliveryStore.Proofs.Lists
import DeliveryStore.Proofs.Storage.WrittenPaths

/-!
# Addresses of the asynchronous driver

What the addresses name that begin with the asynchronous driver of SQLite, when they are accepted, and
when the database that they name is an ordinary relative path. Main statements:

* `Locator.parse_bare` — an address without percent signs and options names what it says;
* `Locator.isOk_target_iff` — which addresses are accepted;
* `Locator.spellsFile_of_bare` — plain names make an address that spells a relative path;
* `Locator.SpellsFile.directories` — the directories of an address that spells a relative path.
-/

namespace DeliveryStore

/-! ## Percent coding -/

namespace Text

/-- A text without a percent sign is read as it stands, after the bytes that are still to be read. -/
theorem Percent.decodeFrom_of_plain {run : List UInt8} {text : List Char}
    (hrun : ∀ b ∈ run, b.toNat < 0x80) (h : '%' ∉ text) :
    decodeFrom run text = (run.reverse.map fun b => Char.ofNat b.toNat) ++ text := by
  induction text generalizing run with
  | nil =>
    rw [decodeFrom, Utf8.decode_ascii fun b hb => hrun b (List.mem_reverse.1 hb), List.append_nil]
  | cons c rest ih =>
    have hc : c ≠ '%' := fun heq => h (by simp [heq])
    have hrest : '%' ∉ rest := fun hmem => h (List.mem_cons_of_mem _ hmem)
    rw [decodeFrom]
    · split
      · rename_i hascii
        have hbyte : (UInt8.ofNat c.toNat).toNat = c.toNat := by
          rw [UInt8.toNat_ofNat']
          omega
        rw [ih (by simpa [hbyte, hascii] using hrun) hrest]
        simp [hbyte, Char.ofNat_toNat]
      · rw [ih (by simp) hrest, Utf8.decode_ascii fun b hb => hrun b (List.mem_reverse.1 hb)]
        rfl
    · exact fun a b r heq => absurd heq hc

/-- A text without a percent sign stands for itself. -/
theorem Percent.decode_of_plain {text : List Char} (h : '%' ∉ text) : decode text = text :=
  decodeFrom_of_plain (by simp) h

end Text

/-! ## Reading -/

namespace Locator

variable {l : Locator} {names : List String}

/-- The first part of the addresses that the asynchronous driver of SQLite opens. -/
def asynchronousDriver : String := "sqlite+aiosqlite"

/-- An address of the asynchronous driver that goes on with a database, without percent signs and
options, names this database and nothing else. -/
theorem parse_bare {d : String} (hq : '?' ∉ d.toList) (hp : '%' ∉ d.toList) :
    parse (asynchronousDriver ++ ":///" ++ d) =
      .ok { driver := asynchronousDriver, database := some d } := by
  have htext : (asynchronousDriver ++ ":///" ++ d).toList =
      asynchronousDriver.toList ++ ':' :: '/' :: '/' :: '/' :: d.toList := by
    simp only [String.toList_append, List.append_assoc]
    rfl
  have hword : asynchronousDriver.toList.all (fun c => Text.isWord c || c == '+') = true := by
    decide +kernel
  have hdriver : (asynchronousDriver.toList ++ ':' :: '/' :: '/' :: '/' :: d.toList).takeWhile
      (fun c => Text.isWord c || c == '+') = asynchronousDriver.toList := by
    rw [List.takeWhile_append_of_pos (List.all_eq_true.1 hword),
      List.takeWhile_cons_of_neg (by decide +kernel), List.append_nil]
  have hrun : d.toList.takeWhile (fun c => !List.contains ['?'] c) = d.toList := by
    have hall : ∀ c ∈ d.toList, (!List.contains ['?'] c) = true := by
      intro c hc
      have hne : c ≠ '?' := fun heq => hq (heq ▸ hc)
      simp [hne]
    have happend : (d.toList ++ []).takeWhile (fun c => !List.contains ['?'] c) = d.toList ++ [] :=
      List.takeWhile_append_of_pos hall
    rwa [List.append_nil] at happend
  have huser : splitUser ('/' :: d.toList) = (none, none, '/' :: d.toList) := by
    simp [splitUser]
  have hhost : splitHost ('/' :: d.toList) = (none, '/' :: d.toList) := by
    simp [splitHost]
  have hdigits : splitPart ':' ['/', '?'] ('/' :: d.toList) = (none, '/' :: d.toList) := by
    simp [splitPart]
  have hdatabase : splitPart '/' ['?'] ('/' :: d.toList) = (some d.toList, []) := by
    simp only [splitPart, if_true, hrun, List.drop_length]
  have hoptions : splitPart '?' ['\n'] [] = (none, []) := rfl
  have hempty : asynchronousDriver.toList.isEmpty = false := by decide
  unfold parse
  simp only [htext, hdriver, hempty, List.drop_left, huser, hhost, hdigits, hdatabase, hoptions,
    Option.map_none, Option.map_some, Text.Percent.decode_of_plain hp, String.ofList_toList]
  rfl

/-! ## Acceptance -/

/-- What of an address has to be right for it to be accepted, apart from its driver and database: no
plugin, no user, password, host or number on it, and options that can be read. -/
def IsAcceptable (l : Locator) : Prop :=
  l.plugin? = none ∧ l.hasForeignParts = false ∧
    ∃ options, DriverOptions.read l.withoutPlugins = .ok options

/-- An address of the asynchronous driver that has a database is accepted if it is acceptable, and only
then. -/
theorem isOk_target_iff (hdriver : l.driver = asynchronousDriver) {d : String}
    (hd : l.database = some d) : (∃ target, l.target = .ok target) ↔ l.IsAcceptable := by
  have hloads : Driver.ofAddress l.withoutPlugins.driver = .ok .asynchronous := by
    have hsame : l.withoutPlugins.driver = asynchronousDriver := hdriver
    rw [hsame]
    decide +kernel
  have hforeign : l.withoutPlugins.hasForeignParts = l.hasForeignParts := rfl
  have hname : ∃ name, l.withoutPlugins.addressName = .ok name := by
    have hdatabase : l.withoutPlugins.database = some d := hd
    simp only [addressName, hdatabase]
    exact ⟨_, rfl⟩
  obtain ⟨name, hname⟩ := hname
  simp only [target, IsAcceptable, bind, Except.bind, pure, Except.pure, throw, throwThe,
    MonadExceptOf.throw, hloads, hforeign]
  cases l.plugin? with
  | some plugin => simp
  | none =>
    cases l.hasForeignParts with
    | true => simp
    | false =>
      cases hread : DriverOptions.read l.withoutPlugins with
      | error fault => simp
      | ok options =>
        refine iff_of_true ?_ ⟨rfl, rfl, options, rfl⟩
        cases huri : options.uri
        all_goals
          simp only [hname, huri, Bool.false_eq_true, if_false, if_true, reduceCtorEq]
          split
          · exact ⟨_, rfl⟩
          · split <;> exact ⟨_, rfl⟩

/-! ## Relative paths -/

/-- An address whose database is a relative path to a file, written from plain names. -/
structure SpellsFile (l : Locator) (names : List String) : Prop where
  database : l.database = some ("/".intercalate names)
  names_ne_nil : names ≠ []
  plain : ∀ n ∈ names, Path.IsPlainName n
  not_memory : "/".intercalate names ≠ Target.memoryName
  unschemed : Target.scheme.toList.isPrefixOf ("/".intercalate names).toList = false
  mode : l.option? "mode" ≠ some (.one "memory")

/-- Plain names without a mark that means something in an address, put after the asynchronous driver,
make an address that spells the path of these names. -/
theorem spellsFile_of_bare (hne : names ≠ []) (hplain : ∀ n ∈ names, Path.IsPlainName n)
    (hmarks : ∀ n ∈ names, '?' ∉ n.toList ∧ '%' ∉ n.toList ∧ ':' ∉ n.toList) :
    ∃ l, ofValue (.text (asynchronousDriver ++ ":///" ++ "/".intercalate names)) = .ok l ∧
      l.driver = asynchronousDriver ∧ l.SpellsFile names := by
  have hfree : ∀ {c : Char}, c ≠ '/' → (∀ n ∈ names, c ∉ n.toList) →
      c ∉ ("/".intercalate names).toList := by
    intro c hc hnames hmem
    rw [String.toList_intercalate] at hmem
    rcases List.mem_of_mem_intercalate hmem with hslash | ⟨part, hpart, hin⟩
    · exact hc (List.mem_singleton.1 hslash)
    · obtain ⟨n, hn, rfl⟩ := List.mem_map.1 hpart
      exact hnames n hn hin
  have hcolon := hfree (c := ':') (by decide) fun n hn => (hmarks n hn).2.2
  -- The name of a database in memory has a colon, and so has the scheme of a file address.
  have hmemory : "/".intercalate names ≠ Target.memoryName := by
    intro heq
    exact hcolon (heq ▸ by decide)
  have hscheme : Target.scheme.toList.isPrefixOf ("/".intercalate names).toList = false := by
    rw [Bool.eq_false_iff, Ne, List.isPrefixOf_iff_prefix]
    exact fun h => hcolon (h.subset (by decide))
  have hparse := parse_bare (hfree (by decide) fun n hn => (hmarks n hn).1)
    (hfree (by decide) fun n hn => (hmarks n hn).2.1)
  exact ⟨_, hparse, rfl, rfl, hne, hplain, hmemory, hscheme, by simp [option?]⟩

/-- The directories of such an address are its names but the last. -/
theorem SpellsFile.directories (h : l.SpellsFile names) :
    Handle.directoriesOf l = (names.map FileName.ofText).dropLast := by
  have hempty : "/".intercalate names ≠ "" := by
    intro hempty
    have hnone := Path.namesOfText_intercalate h.plain
    rw [hempty] at hnone
    exact h.names_ne_nil (List.map_eq_nil_iff.1 hnone.symm)
  have houtside : l.inMemory = false := by
    have hmemory : "/".intercalate names ≠ ":memory:" := h.not_memory
    simp [inMemory, h.database, hempty, hmemory, h.mode]
  simp only [Handle.directoriesOf, h.database, houtside, h.unschemed, Bool.or_self,
    Bool.false_eq_true, if_false, Path.namesOfText_intercalate h.plain]

/-- A NUL in a directory of such an address is one in the text of its name. -/
theorem SpellsFile.contains_zero_iff (h : l.SpellsFile names) :
    (Handle.directoriesOf l).any (·.contains 0) = true ↔
      ∃ n ∈ names.dropLast, '\x00' ∈ n.toList := by
  rw [h.directories, ← List.map_dropLast, List.any_eq_true]
  simp only [List.mem_map, List.contains_iff_mem, exists_exists_and_eq_and, Path.zero_mem_ofText_iff]

end Locator

end DeliveryStore
