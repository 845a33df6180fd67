import HopExchange.Basic
import Mathlib

/-!
# Node — Put

What `node.Put` does with the file tree of its path once it holds `txmu`.  `addRecursive`
walks the tree: a directory's entries in the iterator's order, then `it.Err()`; a file is added
to the DAG (`nd.Add`), sized, and put in the transaction under `exchange.KeyFromPath` of its
entry name, which drops the directories (the keys are flattened); any other node is an error.
The first error returns at once.  `Put` then reads the transaction's entries (`tx.Status()`)
and sends one `PutResult` per key of `added`, in the order Go's map iteration gives, with the
running total of their sizes.

`exchange.KeyFromPath` is not in the repository: it is the parameter `keyFromPath`.  Every other
call is an input: its outcome sits in the tree, or in `PutFiles`.

* `addRecursive_items`: `addRecursive` is the depth-first loop over the tree's files, stopping
  at the first error; the `tx.Put` calls made before it stay.
* `put_notifications`: `Put` sends one `PutResult` per distinct key, in the map's order, each
  with `Len` the number of distinct keys, the last with `TotalSize` the sum of their sizes,
  whatever that order.
-/

namespace HopExchange

mutual
/-- A node of the tree `files.NewSerialFile` builds, with the outcome of each call
`addRecursive` makes on it. -/
inductive FileNode where
  /-- `files.Directory`: its entries. -/
  | directory (entries : DirEntries)
  /-- `files.File`: what `nd.Add` returns for it, what `file.Size()` returns, and the error of
  `tx.Put`, if any. -/
  | file (add : Except String Cid) (size : Except String Int) (put : Option String)
  /-- A node of another type. -/
  | other

/-- The entries a directory iterator yields, then what `it.Err()` returns. -/
inductive DirEntries where
  | done (err : Option String)
  | entry (name : String) (node : FileNode) (rest : DirEntries)
end

/-- The `files.File` case of `addRecursive`: the entry `tx.Put` stores, or the error. -/
def addFile (keyFromPath : String → String) (name : String) (add : Except String Cid)
    (size : Except String Int) (put : Option String) : Except String (String × Cid × Int) :=
  match add, size, put with
  | .error e, _, _ => .error e
  | .ok _, .error e, _ => .error e
  | .ok _, .ok _, some e => .error e
  | .ok root, .ok sz, none => .ok (keyFromPath name, root, sz)

mutual
/-- `node.addRecursive(ctx, name, file, added)`: the `tx.Put` calls that succeeded, in order
(their keys are those set in `added`), and the error returned. -/
def addRecursive (keyFromPath : String → String) (name : String) :
    FileNode → List (String × Cid × Int) × Option String
  | .directory es => addEntries keyFromPath es
  | .file add size put =>
    match addFile keyFromPath name add size put with
    | .ok p => ([p], none)
    | .error e => ([], some e)
  | .other => ([], some "unknown file type")

/-- The loop `for it.Next()` of a directory, then `return it.Err()`. -/
def addEntries (keyFromPath : String → String) :
    DirEntries → List (String × Cid × Int) × Option String
  | .done err => ([], err)
  | .entry name node rest =>
    match addRecursive keyFromPath name node with
    | (puts, some e) => (puts, some e)
    | (puts, none) => (puts ++ (addEntries keyFromPath rest).1, (addEntries keyFromPath rest).2)
end

/-- What `addRecursive` meets walking the tree depth first. -/
inductive AddItem where
  /-- A file, under its entry name. -/
  | file (name : String) (add : Except String Cid) (size : Except String Int) (put : Option String)
  | other
  /-- A directory iterator's error, after the directory's entries. -/
  | iterErr (e : String)

mutual
/-- The items of a node reached under `name`, depth first. -/
def FileNode.items (name : String) : FileNode → List AddItem
  | .directory es => es.items
  | .file add size put => [.file name add size put]
  | .other => [.other]

/-- The items of a directory's entries, then its iterator's error. -/
def DirEntries.items : DirEntries → List AddItem
  | .done none => []
  | .done (some e) => [.iterErr e]
  | .entry name node rest => node.items name ++ rest.items
end

/-- What one item gives `addRecursive`: the entry it puts, or its error. -/
def AddItem.result (keyFromPath : String → String) : AddItem → Except String (String × Cid × Int)
  | .file name add size put => addFile keyFromPath name add size put
  | .other => .error "unknown file type"
  | .iterErr e => .error e

/-- The values before the first error, and that error. -/
def untilError {α : Type} : List (Except String α) → List α × Option String
  | [] => ([], none)
  | .error e :: _ => ([], some e)
  | .ok a :: rest => (a :: (untilError rest).1, (untilError rest).2)

/-! ### `addRecursive` is a depth-first loop -/

theorem untilError_append {α : Type} (a b : List (Except String α)) :
    untilError (a ++ b) =
      match untilError a with
      | (xs, some e) => (xs, some e)
      | (xs, none) => (xs ++ (untilError b).1, (untilError b).2) := by
  induction a with
  | nil => rfl
  | cons r a ih =>
    cases r with
    | error e => rfl
    | ok x =>
      have e1 : untilError ((.ok x :: a) ++ b) =
          (x :: (untilError (a ++ b)).1, (untilError (a ++ b)).2) := rfl
      have e2 : untilError (.ok x :: a) = (x :: (untilError a).1, (untilError a).2) := rfl
      rw [e1, e2, ih]
      rcases untilError a with ⟨xs, _ | e⟩ <;> rfl

mutual
theorem addRecursive_eq (keyFromPath : String → String) (name : String) :
    ∀ f : FileNode,
      addRecursive keyFromPath name f = untilError ((f.items name).map (AddItem.result keyFromPath))
  | .directory es => by
    simp only [addRecursive, FileNode.items]
    exact addEntries_eq keyFromPath es
  | .file add size put => by
    simp only [addRecursive, FileNode.items, List.map, AddItem.result]
    cases addFile keyFromPath name add size put <;> rfl
  | .other => rfl

theorem addEntries_eq (keyFromPath : String → String) :
    ∀ es : DirEntries,
      addEntries keyFromPath es = untilError (es.items.map (AddItem.result keyFromPath))
  | .done none => rfl
  | .done (some e) => rfl
  | .entry name node rest => by
    simp only [addEntries, DirEntries.items, List.map_append, untilError_append,
      ← addRecursive_eq keyFromPath name node, ← addEntries_eq keyFromPath rest]
    rcases addRecursive keyFromPath name node with ⟨puts, _ | e⟩ <;> rfl
end

theorem untilError_spec {α : Type} (l : List (Except String α)) :
    ((untilError l).2 = none → l = (untilError l).1.map .ok) ∧
    (∀ e, (untilError l).2 = some e → ∃ post, l = (untilError l).1.map .ok ++ .error e :: post) := by
  induction l with
  | nil => exact ⟨fun _ => rfl, nofun⟩
  | cons r l ih =>
    cases r with
    | error e' => exact ⟨nofun, fun e h => ⟨l, by cases h; rfl⟩⟩
    | ok x =>
      refine ⟨fun h => ?_, fun e h => ?_⟩
      · simp [untilError] at h ⊢
        exact ih.1 h
      · obtain ⟨post, hp⟩ := ih.2 e h
        exact ⟨post, by simp [untilError, ← hp]⟩

/-- **`addRecursive` walks the tree depth first.**  For every tree, the results of its items
(a file's `nd.Add`, `Size` and `tx.Put`, a node of another type, a directory iterator's error)
taken depth first, in each directory's order, are: when `addRecursive` succeeds, exactly the
entries it put; when it returns an error, the entries it put, then that error, then items it
never reached.  So the first error in depth-first order is returned, and the entries put before
it stay in the transaction. -/
theorem addRecursive_items (keyFromPath : String → String) (name : String) (f : FileNode) :
    ((addRecursive keyFromPath name f).2 = none →
      (f.items name).map (AddItem.result keyFromPath) =
        (addRecursive keyFromPath name f).1.map .ok) ∧
    (∀ e, (addRecursive keyFromPath name f).2 = some e →
      ∃ post, (f.items name).map (AddItem.result keyFromPath) =
        (addRecursive keyFromPath name f).1.map .ok ++ .error e :: post) := by
  rw [addRecursive_eq]
  exact untilError_spec _

/-! ### `Put`'s notifications -/

/-- The fields of a `PutResult` the model computes. -/
structure PutResult where
  key : String
  size : Int
  totalSize : Int
  len : Nat
  err : String
  deriving DecidableEq, Repr

/-- `sendErr(err)`. -/
def PutResult.failed (e : String) : PutResult := ⟨"", 0, 0, 0, e⟩

/-- The loop `for k := range added` over the keys in the order `keys`, with the size of each
key's entry and the running total. -/
def putNotify (size : String → Int) (len : Nat) : Int → List String → List PutResult
  | _, [] => []
  | total, k :: ks => ⟨k, size k, total + size k, len, ""⟩ :: putNotify size len (total + size k) ks

/-- What `Put` reads from the filesystem and the transaction. -/
structure PutFiles where
  /-- `os.Stat(args.Path)`. -/
  stat : Except String Unit
  /-- `files.NewSerialFile(args.Path, false, fstat)`: the tree. -/
  serialFile : Except String FileNode
  /-- `tx.Status()`: the size of the entry under each key. -/
  status : Except String (String → Int)

/-- The keys of `added` after `addRecursive` put `puts`. -/
def addedKeys (puts : List (String × Cid × Int)) : List String :=
  (puts.map Prod.fst).dedup

/-- `node.Put` once it holds `txmu`: what it sends, when Go iterates over `added` in the order
`order`. -/
def putSends (keyFromPath : String → String) (path : String) (o : PutFiles)
    (order : List String) : List PutResult :=
  match o.stat, o.serialFile with
  | .error e, _ => [.failed e]
  | .ok (), .error e => [.failed e]
  | .ok (), .ok f =>
    match addRecursive keyFromPath path f with
    | (_, some e) => [.failed e]
    | (puts, none) =>
      match o.status with
      | .error e => [.failed e]
      | .ok size => putNotify size (addedKeys puts).length 0 order

section
variable {size : String → Int} {len : Nat}

theorem putNotify_keys (t : Int) (ks : List String) :
    (putNotify size len t ks).map PutResult.key = ks := by
  induction ks generalizing t with
  | nil => rfl
  | cons k ks ih => simp [putNotify, ih]

theorem putNotify_fields (t : Int) (ks : List String) :
    ∀ r ∈ putNotify size len t ks, r.len = len ∧ r.err = "" := by
  induction ks generalizing t with
  | nil => nofun
  | cons k ks ih =>
    intro r hr
    rcases List.mem_cons.mp hr with rfl | hr
    · exact ⟨rfl, rfl⟩
    · exact ih _ r hr

theorem putNotify_last (t : Int) (ks : List String) :
    ∀ r, (putNotify size len t ks).getLast? = some r → r.totalSize = t + (ks.map size).sum := by
  induction ks generalizing t with
  | nil => nofun
  | cons k ks ih =>
    intro r hr
    cases ks with
    | nil => simp [putNotify] at hr; simp [← hr]
    | cons k' ks' =>
      have := ih (t + size k) r (by simpa [putNotify] using hr)
      simp only [List.map_cons, List.sum_cons] at this ⊢
      omega

/-- Each result carries its key's size, and as total the sizes of the keys reported up to
and including it. -/
theorem putNotify_running (t : Int) (ks : List String) :
    ∀ pre r rest, putNotify size len t ks = pre ++ r :: rest →
      r.size = size r.key ∧ r.totalSize = t + ((pre ++ [r]).map fun q => size q.key).sum := by
  induction ks generalizing t with
  | nil => simp [putNotify]
  | cons k ks ih =>
    rintro (_ | ⟨q, pre⟩) r rest h
    · simp only [putNotify, List.nil_append, List.cons.injEq] at h
      simp [← h.1]
    · simp only [putNotify, List.cons_append, List.cons.injEq] at h
      obtain ⟨rfl, h⟩ := h
      have := ih (t + size k) pre r rest h
      simp only [List.cons_append, List.map_cons, List.sum_cons] at this ⊢
      omega
end

/-- **`Put`'s notifications.**  For every path, every file tree and every order in which Go
iterates over `added`: when the tree is read, `addRecursive` succeeds and `tx.Status()` answers,
`Put` sends one `PutResult` per distinct key of the entries it put, in the map's order, with no
error and with `Len` the number of distinct keys; each has `Size` its key's entry's size and
`TotalSize` the running sum of the sizes of the keys reported so far, so the last has the sum
of the sizes of all those keys' entries, whatever the order.  Files whose entry names are equal
share one key, and are reported once. -/
theorem put_notifications {keyFromPath : String → String} {path : String} {o : PutFiles}
    {f : FileNode} {size : String → Int} {order : List String}
    (hs : o.stat = .ok ()) (hf : o.serialFile = .ok f)
    (ha : (addRecursive keyFromPath path f).2 = none) (hst : o.status = .ok size)
    (horder : order.Perm (addedKeys (addRecursive keyFromPath path f).1)) :
    (putSends keyFromPath path o order).map PutResult.key = order ∧
    (∀ r ∈ putSends keyFromPath path o order,
      r.err = "" ∧ r.len = (addedKeys (addRecursive keyFromPath path f).1).length) ∧
    (∀ r, (putSends keyFromPath path o order).getLast? = some r →
      r.totalSize = ((addedKeys (addRecursive keyFromPath path f).1).map size).sum) ∧
    ∀ pre r rest, putSends keyFromPath path o order = pre ++ r :: rest →
      r.size = size r.key ∧ r.totalSize = ((pre ++ [r]).map fun q => size q.key).sum := by
  have hsend : putSends keyFromPath path o order =
      putNotify size (addedKeys (addRecursive keyFromPath path f).1).length 0 order := by
    rcases har : addRecursive keyFromPath path f with ⟨puts, _ | e⟩
    · simp [putSends, hs, hf, har, hst]
    · simp [har] at ha
  rw [hsend]
  refine ⟨putNotify_keys 0 order, fun r hr => (putNotify_fields 0 order r hr).symm,
    fun r hr => ?_, fun pre r rest h => ?_⟩
  · rw [putNotify_last 0 order r hr, zero_add, (horder.map size).sum_eq]
  · simpa using putNotify_running 0 order pre r rest h

/-- Two files named `a` in two directories, and a file `b`: `Put` reports two keys, and a
total of the sizes of the entries under `a` and `b`. -/
theorem put_notifications_flattened :
    let tree : FileNode := .directory
      (.entry "x" (.directory (.entry "a" (.file (.ok ⟨1⟩) (.ok 3) none) (.done none)))
      (.entry "y" (.directory (.entry "a" (.file (.ok ⟨2⟩) (.ok 5) none) (.done none)))
      (.entry "b" (.file (.ok ⟨3⟩) (.ok 7) none) (.done none))))
    let o : PutFiles := ⟨.ok (), .ok tree, .ok fun k => if k = "a" then 5 else 7⟩
    (putSends id "/p" o ["b", "a"]).map PutResult.key = ["b", "a"] ∧
      ∀ r, (putSends id "/p" o ["b", "a"]).getLast? = some r → r.totalSize = 12 := by
  intro tree o
  have h := @put_notifications id "/p" o tree (fun k => if k = "a" then 5 else 7) ["b", "a"]
    rfl rfl rfl rfl (by decide)
  exact ⟨h.1, fun r hr => by rw [h.2.2.1 r hr]; rfl⟩

end HopExchange
