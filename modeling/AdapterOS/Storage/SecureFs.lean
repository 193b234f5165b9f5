import AdapterOS.Core.Hex
import Mathlib.Data.List.Infix

/-! The checks for path traversal, and the paths that are joined under them. Paths are those of
Unix. -/
namespace AdapterOS.SecureFs

open Library

inductive Component where
  | rootDir
  | curDir
  | parentDir
  | normal (name : String)
  deriving DecidableEq

def component? (part : List Char) : Option Component :=
  if part = [] ∨ part = ['.'] then none
  else if part = ['.', '.'] then some .parentDir
  else some (.normal (String.ofList part))

def isAbsolute (path : List Char) : Bool := path.head? = some '/'

def components (path : List Char) : List Component :=
  let parts := path.splitOn '/'
  let lead := if isAbsolute path then [.rootDir]
    else if parts.head? = some ['.'] then [.curDir] else []
  lead ++ parts.filterMap component?

def join (base relative : List Char) : List Char :=
  if isAbsolute relative then relative
  else if base = [] ∨ base.getLast? = some '/' then base ++ relative
  else base ++ '/' :: relative

section Checks

structure TraversalProtection where
  enabled : Bool := true
  maxDepth : Nat := 20
  blockedComponents : List String := ["..", "~", "$HOME", "$USER"]
  allowedComponents : List String := []

def checkComponent (protection : TraversalProtection) : Component → Except AosError Unit
  | .parentDir => .error (.io "Parent directory traversal detected")
  | .normal name =>
    if name ∈ protection.blockedComponents then
      .error (.io ("Blocked component detected: " ++ name))
    else if protection.allowedComponents ≠ [] ∧ name ∉ protection.allowedComponents then
      .error (.io ("Component not allowed: " ++ name))
    else .ok ()
  | _ => .ok ()

/-- The first of the patterns that the path contains is reported. -/
def checkPatterns (patterns : List String) (message : String) (path : List Char) :
    Except AosError Unit :=
  match patterns.find? fun pattern => decide (pattern.toList <:+: path) with
  | some pattern => .error (.io (message ++ pattern))
  | none => .ok ()

def suspiciousPatterns : List String :=
  ["../", "..\\", "....//", "....\\\\", "..%c0%af", "..%c1%9c", "..%e0%80%ae%e0%80%ae/", "..%252f",
    "..%255c", "%2e%2e%2f", "%2e%2e%5c", "%00", "..\\..\\", "..\\..\\..\\", "\\\\", "//"]

def checkRawPatterns : List Char → Except AosError Unit :=
  checkPatterns suspiciousPatterns "Suspicious pattern detected in raw path: "

def traversalPatterns : List String := ["../", "..\\", "..", "....//", "....\\\\"]

def escaped? (h₁ h₂ : Char) : Option Char := do
  let d₁ ← hexDigit h₁
  let d₂ ← hexDigit h₂
  if 16 * d₁ + d₂ < 128 then some (Char.ofNat (16 * d₁ + d₂)) else none

/-- The two characters after a percent sign are used up in any case. If they are no escape, the
two that follow them are kept as they are. -/
def urlDecode : List Char → List Char
  | c :: h₁ :: h₂ :: rest =>
    if c ≠ '%' then c :: urlDecode (h₁ :: h₂ :: rest)
    else
      match escaped? h₁ h₂, rest with
      | some decoded, rest => decoded :: urlDecode rest
      | none, k₁ :: k₂ :: rest => '%' :: k₁ :: k₂ :: urlDecode rest
      | none, short => '%' :: short
  | [c, d] => if c = '%' then ['%'] else [c, d]
  | short => short

/-- Up to three levels, as long as decoding changes something. -/
def checkDecoded : Nat → Nat → List Char → Except AosError Unit
  | 0, _, _ => .ok ()
  | left + 1, level, decoded =>
    let newDecoded := urlDecode decoded
    if newDecoded = decoded then .ok ()
    else do
      checkPatterns traversalPatterns ("Suspicious pattern detected after URL decoding (level " ++
        toString (level + 1) ++ "): ") newDecoded
      checkDecoded left (level + 1) newDecoded

def checkUrlDecodedPatterns : List Char → Except AosError Unit := checkDecoded 3 0

def dangerousPrefixes : List String :=
  ["/etc/passwd", "/etc/shadow", "/etc/hosts", "/etc/group", "/etc/sudoers", "/bin/", "/usr/bin/",
    "/usr/sbin/", "/usr/local/bin/", "/sbin/", "/home/", "/root/", "/boot/", "/sys/", "/proc/",
    "/dev/", "/var/log/", "/var/spool/", "/var/tmp/", "/tmp/", "/private/tmp/",
    "C:/Windows/System32/", "C:/Windows/System/", "C:/Windows/", "C:/Users/", "C:/Program Files/",
    "C:/Program Files (x86)/", "C:/ProgramData/", "C:/System Volume Information/", "//", "\\\\"]

def checkDangerousAbsolutePaths (path : List Char) : Except AosError Unit :=
  let normalizedPath := path.map fun c => if c = '\\' then '/' else c
  if ∃ text ∈ dangerousPrefixes, text.toList <+: normalizedPath then
    .error (.io ("Access to sensitive system path not allowed: " ++ String.ofList path))
  else .ok ()

def checkSuspiciousPatterns (path : List Char) : Except AosError Unit := do
  checkRawPatterns path
  checkUrlDecodedPatterns path
  checkDangerousAbsolutePaths path

def checkPathTraversal (path : List Char) : Except AosError Unit :=
  let protection : TraversalProtection := {}
  let components := components path
  if !protection.enabled then .ok ()
  else if protection.maxDepth < components.length then
    .error (.io ("Path depth " ++ toString components.length ++ " exceeds maximum " ++
      toString protection.maxDepth))
  else do
    components.forM (checkComponent protection)
    checkSuspiciousPatterns path

end Checks

section Joining

/-- What the file system says of a path without following a link. -/
inductive Metadata where
  | symlink
  | other
  | notFound
  | failed (error : String)
  deriving DecidableEq

def checkMetadata (found failure : String) : Metadata → Except AosError Unit
  | .symlink => .error (.io found)
  | .failed error => .error (.io (failure ++ error))
  | _ => .ok ()

variable (symlinkMetadata : List Char → Metadata)

def Component.text : Component → List Char
  | .rootDir => ['/']
  | .curDir => ['.']
  | .parentDir => ['.', '.']
  | .normal name => name.toList

/-- From the front, every path that a component completes. -/
def checkComponentLinks : List Char → List Component → Except AosError Unit
  | _, [] => .ok ()
  | current, component :: rest => do
    let current := join current component.text
    if component ≠ .rootDir ∧ component ≠ .curDir then
      checkMetadata ("Path contains symlink component, which is not allowed: " ++
        String.ofList current) "Failed to check path component metadata: " (symlinkMetadata current)
    checkComponentLinks current rest

def checkNoSymlinks (path : List Char) : Except AosError Unit := do
  checkMetadata ("Path is a symlink, which is not allowed: " ++ String.ofList path)
    "Failed to check path metadata: " (symlinkMetadata path)
  checkComponentLinks symlinkMetadata [] (components path)

def joinPathsSafe (base relative : List Char) : Except AosError (List Char) := do
  checkPathTraversal relative
  let joined := join base relative
  checkPathTraversal joined
  checkNoSymlinks symlinkMetadata joined
  return joined

end Joining

section Confinement

variable {base relative p : List Char} {symlinkMetadata : List Char → Metadata}

def Below (base p : List Char) : Prop :=
  ∃ rest, components p = components base ++ rest ∧ .parentDir ∉ rest

theorem forM_ok {α : Type*} {f : α → Except AosError Unit} {l : List α} (h : l.forM f = .ok ()) :
    ∀ a ∈ l, f a = .ok () := by
  induction l with
  | nil => simp
  | cons a l ih =>
    change (f a >>= fun _ => l.forM f) = .ok () at h
    obtain ⟨⟨⟩, ha, hl⟩ := bind_eq_ok.mp h
    exact List.forall_mem_cons.mpr ⟨ha, ih hl⟩

theorem checkPathTraversal_ok (h : checkPathTraversal p = .ok ()) :
    (∀ c ∈ components p, checkComponent {} c = .ok ()) ∧ checkSuspiciousPatterns p = .ok () := by
  simp only [checkPathTraversal, Bool.not_true, Bool.false_eq_true, if_false] at h
  split at h
  · cases h
  · obtain ⟨⟨⟩, hcomponents, hpatterns⟩ := bind_eq_ok.mp h
    exact ⟨forM_ok hcomponents, hpatterns⟩

theorem parentDir_notMem (h : checkPathTraversal p = .ok ()) : .parentDir ∉ components p := by
  intro hmem
  cases (checkPathTraversal_ok h).1 _ hmem

theorem joinPathsSafe_ok (h : joinPathsSafe symlinkMetadata base relative = .ok p) :
    p = join base relative ∧ checkPathTraversal p = .ok () := by
  obtain ⟨-, -, h⟩ := bind_eq_ok.mp h
  obtain ⟨⟨⟩, hcheck, h⟩ := bind_eq_ok.mp h
  obtain ⟨-, -, h⟩ := bind_eq_ok.mp h
  cases h
  exact ⟨rfl, hcheck⟩

theorem components_slash (a r : List Char) : components (a ++ '/' :: r) =
    components (a ++ ['/']) ++ (r.splitOn '/').filterMap component? := by
  obtain ⟨w, ws, hw⟩ := List.exists_cons_of_ne_nil (List.splitOn_ne_nil '/' a)
  have habs : isAbsolute (a ++ '/' :: r) = isAbsolute (a ++ ['/']) := by cases a <;> rfl
  simp only [components, habs, splitOn_append_sep, hw, List.cons_append, List.head?_cons]
  simp only [← List.cons_append, List.filterMap_append]
  simp [component?]

theorem components_trailing {a : List Char} (ha : a ≠ []) : components (a ++ ['/']) = components a := by
  obtain ⟨w, ws, hw⟩ := List.exists_cons_of_ne_nil (List.splitOn_ne_nil '/' a)
  have habs : isAbsolute (a ++ ['/']) = isAbsolute a := by
    cases a with
    | nil => exact absurd rfl ha
    | cons c a => rfl
  simp only [components, habs, splitOn_append_sep, hw, List.cons_append, List.head?_cons]
  simp only [← List.cons_append, List.filterMap_append]
  simp [component?]

theorem components_join (h : isAbsolute relative = false) :
    ∃ rest, components (join base relative) = components base ++ rest := by
  rw [join, if_neg (by simp [h])]
  split_ifs with hbase
  · rcases hbase with rfl | hlast
    · exact ⟨components relative, rfl⟩
    · obtain ⟨init, rfl⟩ := List.getLast?_eq_some_iff.mp hlast
      rw [List.append_assoc, List.singleton_append]
      exact ⟨_, components_slash init relative⟩
  · push Not at hbase
    exact ⟨_, (components_slash base relative).trans (by rw [components_trailing hbase.1])⟩

theorem joinPathsSafe_below_iff (h : joinPathsSafe symlinkMetadata base relative = .ok p) :
    Below base p ↔ isAbsolute relative = false ∨ components base <+: components relative := by
  obtain ⟨rfl, hcheck⟩ := joinPathsSafe_ok h
  have hparent := parentDir_notMem hcheck
  constructor
  · rintro ⟨rest, hrest, -⟩
    cases habs : isAbsolute relative with
    | false => exact .inl rfl
    | true =>
      rw [join, if_pos habs] at hrest
      exact .inr ⟨rest, hrest.symm⟩
  · intro hcases
    obtain ⟨rest, hrest⟩ : ∃ rest, components (join base relative) = components base ++ rest := by
      cases habs : isAbsolute relative with
      | false => exact components_join habs
      | true =>
        obtain ⟨rest, hrest⟩ := hcases.resolve_left (by simp [habs])
        exact ⟨rest, by rw [join, if_pos habs, hrest]⟩
    refine ⟨rest, hrest, fun hmem => hparent ?_⟩
    rw [hrest]
    exact List.mem_append_right _ hmem

theorem joinPathsSafe_srv : let join := joinPathsSafe (fun _ => .notFound) "/srv/data".toList
    join "a".toList = .ok "/srv/data/a".toList ∧
      join "/opt/secrets".toList = .ok "/opt/secrets".toList := by
  decide +kernel

theorem joinPathsSafe_below_relative :
    Below "/srv/data".toList "/srv/data/a".toList ↔ isAbsolute "a".toList = false ∨
      components "/srv/data".toList <+: components "a".toList :=
  joinPathsSafe_below_iff joinPathsSafe_srv.1

theorem joinPathsSafe_replaces_base : ∃ p,
    joinPathsSafe (fun _ => .notFound) "/srv/data".toList "/opt/secrets".toList = .ok p ∧
      ¬ Below "/srv/data".toList p := by
  refine ⟨"/opt/secrets".toList, joinPathsSafe_srv.2, ?_⟩
  rintro ⟨rest, hrest, -⟩
  have hstart : components "/srv/data".toList <+: components "/opt/secrets".toList := ⟨rest, hrest.symm⟩
  revert hstart
  decide

theorem checkMetadata_ok {found failure : String} {m : Metadata}
    (h : checkMetadata found failure m = .ok ()) : m ≠ .symlink := by
  rintro rfl
  cases h

theorem checkComponentLinks_ok {current : List Char} {cs pre : List Component} {c : Component}
    (h : checkComponentLinks symlinkMetadata current cs = .ok ()) (hpre : pre ++ [c] <+: cs)
    (hc : c ≠ .rootDir ∧ c ≠ .curDir) :
    symlinkMetadata ((pre ++ [c]).foldl (fun q c => join q c.text) current) ≠ .symlink := by
  induction cs generalizing current pre with
  | nil => simp at hpre
  | cons d cs ih =>
    rw [checkComponentLinks] at h
    cases pre with
    | nil =>
      obtain ⟨rfl, -⟩ := List.cons_prefix_cons.mp hpre
      rw [if_pos hc] at h
      obtain ⟨⟨⟩, hd, -⟩ := bind_eq_ok.mp h
      exact checkMetadata_ok hd
    | cons e pre =>
      obtain ⟨rfl, htail⟩ := List.cons_prefix_cons.mp hpre
      have hrest : checkComponentLinks symlinkMetadata (join current e.text) cs = .ok () := by
        split at h
        · exact (bind_eq_ok.mp h).choose_spec.2
        · exact h
      simpa using ih hrest htail

/-- Neither a joined path nor a directory on the way to it is a symbolic link. -/
theorem joinPathsSafe_no_links (h : joinPathsSafe symlinkMetadata base relative = .ok p) :
    symlinkMetadata p ≠ .symlink ∧ ∀ pre c, pre ++ [c] <+: components p →
      c ≠ .rootDir ∧ c ≠ .curDir →
      symlinkMetadata ((pre ++ [c]).foldl (fun q c => join q c.text) []) ≠ .symlink := by
  obtain ⟨-, -, h⟩ := bind_eq_ok.mp h
  obtain ⟨-, -, h⟩ := bind_eq_ok.mp h
  obtain ⟨⟨⟩, hlinks, h⟩ := bind_eq_ok.mp h
  cases h
  obtain ⟨⟨⟩, hpath, hcomponents⟩ := bind_eq_ok.mp hlinks
  exact ⟨checkMetadata_ok hpath, fun _ _ => checkComponentLinks_ok hcomponents⟩

theorem no_links_below_root :
    (if "/srv/a".toList = ['/'] then .symlink else .other) ≠ Metadata.symlink :=
  (@joinPathsSafe_no_links "/srv".toList ['a'] "/srv/a".toList
    (fun q => if q = ['/'] then .symlink else .other) (by decide)).1

end Confinement

section Decoding

/-- Standard decoding: only well-formed escapes are replaced. -/
def percentDecode : List Char → List Char
  | c :: h₁ :: h₂ :: rest =>
    if c = '%' then
      match escaped? h₁ h₂ with
      | some decoded => decoded :: percentDecode rest
      | none => '%' :: percentDecode (h₁ :: h₂ :: rest)
    else c :: percentDecode (h₁ :: h₂ :: rest)
  | short => short

def WellEscaped : List Char → Prop
  | c :: h₁ :: h₂ :: rest =>
    if c = '%' then (escaped? h₁ h₂).isSome ∧ WellEscaped rest else WellEscaped (h₁ :: h₂ :: rest)
  | short => '%' ∉ short

theorem urlDecode_eq {s : List Char} (h : WellEscaped s) : urlDecode s = percentDecode s := by
  fun_induction percentDecode s with
  | case1 | case2 => simp_all [urlDecode, WellEscaped]
  | case3 c h₁ h₂ rest hc ih =>
    rw [urlDecode.eq_def]
    simp_all [WellEscaped]
  | case4 short hshape =>
    match short, hshape with
    | [], _ | [_], _ => rfl
    | [c, d], _ =>
      rw [WellEscaped.eq_def] at h
      simp_all [urlDecode, eq_comm]
    | c :: h₁ :: h₂ :: rest, hshape => exact absurd rfl (hshape c h₁ h₂ rest)

theorem infix_of_mem_splitOn {part s : List Char} (h : part ∈ s.splitOn '/') : part <:+: s := by
  have hparts : ∀ parts : List (List Char), part ∈ parts → part <:+: ['/'].intercalate parts := by
    intro parts
    induction parts with
    | nil => simp
    | cons w ws ih =>
      intro hmem
      rcases List.mem_cons.mp hmem with rfl | hmem
      · cases ws with
        | nil => simp
        | cons v ws => exact ⟨[], ['/'] ++ ['/'].intercalate (v :: ws), by simp⟩
      · rw [List.intercalate_cons_of_ne_nil (List.ne_nil_of_mem hmem)]
        exact (ih hmem).trans (List.suffix_append _ _).isInfix
  have hinfix := hparts _ h
  rwa [List.intercalate_splitOn] at hinfix

theorem checkDecoded_noParent {n level k : Nat} {s : List Char} (h : checkDecoded n level s = .ok ())
    (hs : ['.', '.'] ∉ s.splitOn '/') (hk : k ≤ n)
    (hwell : ∀ j < k, WellEscaped (percentDecode^[j] s)) :
    ['.', '.'] ∉ (percentDecode^[k] s).splitOn '/' := by
  induction n generalizing level k s with
  | zero =>
    obtain rfl := Nat.le_zero.mp hk
    exact hs
  | succ n ih =>
    cases k with
    | zero => exact hs
    | succ k =>
      have hdecode := urlDecode_eq (hwell 0 (by omega))
      rw [Function.iterate_zero, id_eq] at hdecode
      simp only [checkDecoded, hdecode] at h
      split at h
      · rename_i hsame
        rwa [Function.iterate_fixed hsame]
      · obtain ⟨⟨⟩, hpattern, hrest⟩ := bind_eq_ok.mp h
        rw [Function.iterate_succ_apply]
        refine ih hrest ?_ (by omega) fun j hj => ?_
        · intro hmem
          have hinfix := infix_of_mem_splitOn hmem
          simp only [checkPatterns] at hpattern
          split at hpattern
          · cases hpattern
          · rename_i hnone
            have := List.find?_eq_none.mp hnone ".." (by decide)
            exact this (decide_eq_true hinfix)
        · rw [← Function.iterate_succ_apply]
          exact hwell (j + 1) (by omega)

/-- Encoded parent directories are found, level by level, as long as no percent sign stands on
its own at a level above. -/
theorem decoded_noParent {s : List Char} (h : checkPathTraversal s = .ok ()) {k : Nat} (hk : k ≤ 3)
    (hwell : ∀ j < k, WellEscaped (percentDecode^[j] s)) :
    ['.', '.'] ∉ (percentDecode^[k] s).splitOn '/' := by
  have hpatterns := (checkPathTraversal_ok h).2
  obtain ⟨⟨⟩, -, hpatterns⟩ := bind_eq_ok.mp hpatterns
  obtain ⟨⟨⟩, hdecoded, -⟩ := bind_eq_ok.mp hpatterns
  refine checkDecoded_noParent hdecoded ?_ hk hwell
  intro hmem
  refine parentDir_notMem h (List.mem_append_right _ (List.mem_filterMap.mpr ⟨_, hmem, ?_⟩))
  decide

theorem decoded_noParent_once : ['.', '.'] ∉ (percentDecode^[1] "a%41".toList).splitOn '/' := by
  refine decoded_noParent (by decide) (by decide) fun j hj => ?_
  obtain rfl := Nat.lt_one_iff.mp hj
  simp [WellEscaped]
  decide

theorem stray_percent_hides_parent : checkPathTraversal "%z/%2e%2e".toList = .ok () ∧
    ['.', '.'] ∈ (percentDecode^[1] "%z/%2e%2e".toList).splitOn '/' := by
  decide +kernel

end Decoding

end AdapterOS.SecureFs
