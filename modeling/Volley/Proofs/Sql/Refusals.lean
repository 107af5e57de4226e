import Volley.Sql.Memory

/-!
# What a database refuses

A pool can run out of connections or be closed, and a database can refuse a statement or give rows
that cannot be read. The second is never taken for the first: whatever a text asks of a database in
memory, no refusal is one of the pool.

* `ofDatabase_execute`: the refusals of a database.
* `tellsClosed_driver`: the driver of databases in memory keeps the promise about closed pools.
-/
namespace Volley.Sql

/-- What is refused is a matter of the statement or of its rows, and not of the pool. -/
def OfDatabase {α : Type} (r : Except DriverFault α) : Prop :=
  ∀ e, r = .error e → e.effect = .warning ∨ e.effect = .failed

namespace OfDatabase

variable {α β : Type}

theorem ok (a : α) : OfDatabase (.ok a) := nofun

theorem refuse (text : String) : OfDatabase (Database.refuse text : Except DriverFault α) := by
  rintro e ⟨⟩
  exact .inr rfl

theorem syntaxFault (ts : List Token) :
    OfDatabase (Database.syntaxFault ts : Except DriverFault α) := by
  unfold Database.syntaxFault
  split <;> exact refuse _

theorem bind {x : Except DriverFault α} {f : α → Except DriverFault β} (hx : OfDatabase x)
    (hf : ∀ a, OfDatabase (f a)) : OfDatabase (x >>= f) := by
  intro e he
  cases x with
  | ok a => exact hf a e he
  | error e' =>
    cases he
    exact hx e rfl

theorem map {x : Except DriverFault α} (hx : OfDatabase x) (f : α → β) :
    OfDatabase (x.map f) := by
  intro e he
  cases x with
  | ok a => cases he
  | error e' =>
    cases he
    exact hx e rfl

theorem mapM {f : α → Except DriverFault β} (hf : ∀ a, OfDatabase (f a)) (l : List α) :
    OfDatabase (l.mapM f) := by
  induction l with
  | nil => exact ok []
  | cons a l ih =>
    rw [List.mapM_cons]
    exact (hf a).bind fun b => ih.bind fun bs => ok (b :: bs)

theorem forIn {f : α → β → Except DriverFault (ForInStep β)} (hf : ∀ a b, OfDatabase (f a b))
    (l : List α) (b : β) : OfDatabase (ForIn.forIn l b f) := by
  induction l generalizing b with
  | nil => exact ok b
  | cons a l ih =>
    rw [List.forIn_cons]
    refine (hf a b).bind fun step => ?_
    cases step with
    | done b => exact ok b
    | yield b => exact ih b

end OfDatabase

namespace Database

theorem ofDatabase_constantRows (q : Query) : OfDatabase (constantRows q) := by
  unfold constantRows
  split
  · split
    · exact .refuse _
    · exact .syntaxFault _
  · split
    · exact .ok 1
    · split
      · exact .ok 1
      · exact .ok 0
      · exact .syntaxFault _

/-- A condition leaves a number of rows, and the rest of the query is about these. -/
theorem tableRows_cases (t : Table) (q : Query) :
    (∃ n, tableRows t q = tableRows { t with rows := n } { q with condition := none }) ∨
      ∃ c, tableRows t q = syntaxFault c := by
  cases hq : q.condition with
  | none => exact .inl ⟨t.rows, by simp only [tableRows, hq]⟩
  | some c =>
    cases hc : condition? c with
    | none =>
      refine .inr ⟨c, ?_⟩
      simp only [tableRows, hq, hc]
      unfold syntaxFault
      split <;> rfl
    | some holds =>
      cases holds with
      | true => exact .inl ⟨t.rows, by simp only [tableRows, hq, hc]⟩
      | false => exact .inl ⟨0, by simp only [tableRows, hq, hc]⟩

theorem ofDatabase_tableRows (t : Table) (q : Query) : OfDatabase (tableRows t q) := by
  obtain ⟨n, h⟩ | ⟨c, h⟩ := tableRows_cases t q
  · rw [h]
    unfold tableRows
    refine .bind (.ok n) fun rows => ?_
    dsimp only
    split
    · exact .ok 1
    · refine .bind (.mapM (fun ts => ?_) _) fun picked => ?_
      · split
        · exact .ok _
        · split
          · exact .ok _
          · exact .refuse _
        · split
          · exact .ok _
          · exact .syntaxFault _
      · split
        · rintro e ⟨⟩
          exact .inl rfl
        · exact .ok _
  · rw [h]
    exact .syntaxFault c

theorem ofDatabase_selects (d : Database) (ts : List Token) : OfDatabase (d.selects ts) := by
  refine .bind (.mapM (fun part => ?_) _) fun counts => .ok _
  split
  · unfold select
    dsimp only
    split
    · exact ofDatabase_constantRows _
    · split
      · exact ofDatabase_tableRows _ _
      · exact .refuse _
    · exact .syntaxFault _
  · exact .syntaxFault _

theorem ofDatabase_create (d : Database) (name : String) (ts : List Token) :
    OfDatabase (d.create name ts) := by
  unfold create
  split
  · exact .syntaxFault ts
  · split
    · exact .refuse _
    · exact .ok _

theorem ofDatabase_insert (d : Database) (name : String) (ts : List Token) :
    OfDatabase (d.insert name ts) := by
  unfold insert
  split
  · exact .refuse _
  · refine .bind (.forIn (fun row _ => ?_) _ _) fun _ => .ok _
    split
    · exact .bind (.syntaxFault row) fun _ => .ok _
    · dsimp only
      split
      · exact .bind (.refuse _) fun _ => .ok _
      · exact .ok _

theorem ofDatabase_step (d : Database) (ts : List Token) : OfDatabase (d.step ts) := by
  unfold step
  split
  · exact .ok _
  · exact .map (d.ofDatabase_selects _) _
  · exact d.ofDatabase_create _ _
  · exact d.ofDatabase_insert _ _
  · exact .syntaxFault _

/-- Whatever a text asks for, what the database refuses is no matter of the pool. -/
theorem ofDatabase_execute (d : Database) (sql : String) : OfDatabase (d.execute sql).2 := by
  unfold execute
  refine List.foldlRecOn (motive := fun ran : Database × Except DriverFault Nat =>
    OfDatabase ran.2) _ _ (.ok 0) ?_
  rintro ⟨d, r⟩ hr ts -
  cases r with
  | error e => exact hr
  | ok n =>
    have hstep := d.ofDatabase_step ts
    dsimp only
    split
    · exact .ok _
    · rename_i e he
      rintro e' ⟨⟩
      exact hstep e he

end Database

theorem tellsClosed_driver (held : Nat) : (Memory.driver held).TellsClosed where
  acquire asked pool := by
    unfold Memory.driver
    dsimp only
    cases pool.isClosed asked with
    | true => simp
    | false => by_cases hfull : Memory.sizeOf pool asked ≤ held <;> simp [hfull]
  execute asked pool statement := by
    intro h
    rcases (Memory.databaseOf pool asked).ofDatabase_execute statement _ h with he | he <;> cases he

end Volley.Sql
