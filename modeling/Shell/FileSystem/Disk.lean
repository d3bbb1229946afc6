import Shell.FileSystem.Access

/-!
# What files are read and saved on

A path may lead to more than a file: to a device, and through it to a stream of whoever opens it.
What is read there is gone afterwards, and what is saved there shows elsewhere. So those who read
and save at a path do it on a disk, which says what becomes of the whole state. A file system alone
is one, on which the streams are not there.

A disk may be part of a larger state. Then it is the disk of that state as well, and what is done on
it leaves the rest as it is.
-/

namespace Shell

section

variable {σ α β : Type} (s : σ)

theorem pure_apply (a : α) : (pure a : StateM σ α) s = (a, s) := rfl

theorem bind_apply (a : StateM σ α) (f : α → StateM σ β) : (a >>= f) s = f (a s).1 (a s).2 := rfl

theorem get_apply : (get : StateM σ σ) s = (s, s) := rfl

theorem modify_apply (f : σ → σ) : (modify f : StateM σ PUnit) s = (⟨⟩, f s) := rfl

theorem get_bind_apply (f : σ → StateM σ α) : (get >>= f) s = f s s := rfl

end

/-- A part of a state, which can be looked at and replaced. -/
structure Part (τ σ : Type) where
  get : τ → σ
  set : τ → σ → τ
  set_get : ∀ t, set t (get t) = t
  get_set : ∀ t s, get (set t s) = s
  set_set : ∀ t s s', set (set t s) s' = set t s'

namespace Part

attribute [simp] set_get get_set set_set

variable {τ σ α β : Type} (p : Part τ σ)

/-- Do something with the part. -/
def lift (x : StateM σ α) : StateM τ α := fun t =>
  let (a, s) := x (p.get t)
  (a, p.set t s)

theorem lift_apply (x : StateM σ α) (t : τ) :
    p.lift x t = ((x (p.get t)).1, p.set t (x (p.get t)).2) :=
  rfl

@[simp] theorem lift_pure (a : α) : p.lift (pure a) = pure a := by
  funext t
  change (a, p.set t (p.get t)) = (a, t)
  rw [set_get]

@[simp] theorem lift_bind (x : StateM σ α) (f : α → StateM σ β) :
    p.lift (x >>= f) = p.lift x >>= fun a => p.lift (f a) := by
  funext t
  change ((f (x (p.get t)).1 (x (p.get t)).2).1, p.set t (f (x (p.get t)).1 (x (p.get t)).2).2) =
    ((f (x (p.get t)).1 (p.get (p.set t (x (p.get t)).2))).1,
      p.set (p.set t (x (p.get t)).2) (f (x (p.get t)).1 (p.get (p.set t (x (p.get t)).2))).2)
  rw [get_set, set_set]

end Part

/-- The files of a state, which are read and saved at a path. -/
structure Disk (σ : Type) where
  /-- The files as they are now. -/
  files : σ → FileSystem
  /-- The text at a path. -/
  read : String → StateM σ (Except IoError String)
  /-- Open the file at a path and write bytes to it. -/
  save : String → WriteMode → Bytes → StateM σ (Except IoError Unit)

/-- The disk of a part of a state. -/
def Disk.within {τ σ : Type} (d : Disk σ) (p : Part τ σ) : Disk τ where
  files t := d.files (p.get t)
  read path := p.lift (d.read path)
  save path mode bytes := p.lift (d.save path mode bytes)

/-- The files alone. -/
def FileSystem.disk : Disk FileSystem where
  files fs := fs
  read path := fun fs => (fs.readText path, fs)
  save path mode bytes := fun fs => fs.save path mode bytes

end Shell
