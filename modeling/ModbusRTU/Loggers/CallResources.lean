import ModbusRTU.Interaction.TraceLaw
import ModbusRTU.Loggers.LibraryCalls

/-!
# What the library calls acquire and release

A call of the loggers can return a context, open the serial descriptor of a context, open a MySQL
session, or give one of these back.  `Settled t` says of the calls `t` made so far that nothing in
them is still held and that no context was used after it was freed, clause by clause in terms of
the calls; `settled_iff_laws` restates it by the laws of `TraceLaw`, which look at one context or
handle at a time.  `SettledAtEverySleep` asks for it at each `sleep` of a run.
-/

namespace ModbusRTU.CallResources

open CallProgram TraceLaw LibraryCalls

/-! ### Reading a call -/

/-- The context a modbus call is made on. -/
@[simp] def contextArg : Op → Option ModbusT
  | .modbusSetSlave mb _ | .modbusConnect mb | .modbusSetByteTimeout mb _
  | .modbusReadRegisters mb _ _ | .modbusClose mb | .modbusFree mb => some mb
  | _ => none

/-- The handle a MySQL call is made on. -/
@[simp] def handleArg : Op → Option Mysql
  | .mysqlRealConnect conn .. | .mysqlQuery conn _ | .mysqlClose conn => some conn
  | _ => none

@[simp] def onContext (c : Call) : Option ModbusT := contextArg c.1

/-- The context a call returned. -/
@[simp] def returned : Call → Option ModbusT
  | ⟨.modbusNewRtu .., r⟩ => r
  | _ => none

@[simp] def freed : Call → Option ModbusT
  | ⟨.modbusFree mb, _⟩ => some mb
  | _ => none

/-- The context for which a call opened the serial descriptor. -/
@[simp] def connected : Call → Option ModbusT
  | ⟨.modbusConnect mb, rc⟩ => if rc = -1 then none else some mb
  | _ => none

@[simp] def closed : Call → Option ModbusT
  | ⟨.modbusClose mb, _⟩ => some mb
  | _ => none

/-- The handle on which a call opened a session. -/
@[simp] def sessionOpened : Call → Option Mysql
  | ⟨.mysqlRealConnect conn .., ok⟩ => if ok then some conn else none
  | _ => none

@[simp] def sessionClosed : Call → Option Mysql
  | ⟨.mysqlClose conn, _⟩ => some conn
  | _ => none

/-- The number that names the context or the handle of a call. -/
@[simp] def nameOf : Call → Option ℕ
  | ⟨.modbusNewRtu .., r⟩ => r.map ModbusT.id
  | ⟨.mysqlInit, conn⟩ => some conn.id
  | ⟨op, _⟩ => ((contextArg op).map ModbusT.id).or ((handleArg op).map Mysql.id)

theorem nameOf_of_onContext (c : Call) (mb : ModbusT) (h : onContext c = some mb) :
    nameOf c = some mb.id := by
  obtain ⟨op, r⟩ := c
  cases op <;> simp_all

theorem onContext_of_freed (c : Call) (mb : ModbusT) (h : freed c = some mb) :
    onContext c = some mb := by
  obtain ⟨op, r⟩ := c
  cases op <;> simp_all

theorem onContext_of_closed (c : Call) (mb : ModbusT) (h : closed c = some mb) :
    onContext c = some mb := by
  obtain ⟨op, r⟩ := c
  cases op <;> simp_all

theorem onContext_of_connected (c : Call) (mb : ModbusT) (h : connected c = some mb) :
    onContext c = some mb := by
  obtain ⟨op, r⟩ := c
  cases op <;> simp_all

/-! ### The leases -/

/-- `modbus_new_rtu` and `modbus_free`. -/
@[simps] def contextLease : Lease nameOf ModbusT where
  takes := returned
  gives := freed
  key := ModbusT.id
  takes_name c mb h := by
    obtain ⟨op, r⟩ := c
    cases op <;> simp_all
  gives_name c mb h := nameOf_of_onContext c mb (onContext_of_freed c mb h)
  exclusive c mb h := by
    obtain ⟨op, r⟩ := c
    cases op <;> simp_all

/-- A successful `modbus_connect` and `modbus_close`, by the context.  A pass connects its context at most
once (`HeldInRuns.pass_acquired`). -/
@[simps] def descriptorLease : Lease nameOf ModbusT where
  takes := connected
  gives := closed
  key := ModbusT.id
  takes_name c mb h := nameOf_of_onContext c mb (onContext_of_connected c mb h)
  gives_name c mb h := nameOf_of_onContext c mb (onContext_of_closed c mb h)
  exclusive c mb h := by
    obtain ⟨op, r⟩ := c
    cases op <;> simp_all

/-- A successful `mysql_real_connect` and `mysql_close`. -/
@[simps] def sessionLease : Lease nameOf Mysql where
  takes := sessionOpened
  gives := sessionClosed
  key := Mysql.id
  takes_name c conn h := by
    obtain ⟨op, r⟩ := c
    cases op <;> simp_all
  gives_name c conn h := by
    obtain ⟨op, r⟩ := c
    cases op <;> simp_all
  exclusive c conn h := by
    obtain ⟨op, r⟩ := c
    cases op <;> simp_all

/-- No modbus call on a context that was freed. -/
def noUseAfterFree : Law nameOf :=
  Law.neverAfter freed onContext ModbusT.id
    (fun c mb h => nameOf_of_onContext c mb (onContext_of_freed c mb h)) nameOf_of_onContext

@[simp] theorem noUseAfterFree_demand (c : Call) (rest : List Call) :
    noUseAfterFree.demand c rest ↔
      ∀ mb, freed c = some mb → ∀ x ∈ rest, onContext x ≠ some mb := Iff.rfl

/-! ### Nothing held, nothing misused -/

/-- Nothing acquired in the calls `t` is still held, and every release was in order. -/
structure Settled (t : List Call) : Prop where
  /-- every context `modbus_new_rtu` returned was passed to `modbus_free` exactly once -/
  contexts : ∀ pre c rest mb, t = pre ++ c :: rest → returned c = some mb →
    rest.countP (fun x => freed x = some mb) = 1
  /-- every descriptor a `modbus_connect` opened was closed by exactly one `modbus_close` on its
  context, -/
  descriptors : ∀ pre c rest mb, t = pre ++ c :: rest → connected c = some mb →
    rest.countP (fun x => closed x = some mb) = 1
  /-- made before that context was freed -/
  closedBeforeFree : ∀ pre c rest mb, t = pre ++ c :: rest → connected c = some mb →
    ∀ mid x post, rest = mid ++ x :: post → closed x = some mb → ∀ y ∈ mid, freed y ≠ some mb
  /-- every session a `mysql_real_connect` opened was closed by exactly one `mysql_close` -/
  sessions : ∀ pre c rest conn, t = pre ++ c :: rest → sessionOpened c = some conn →
    rest.countP (fun x => sessionClosed x = some conn) = 1
  /-- no modbus call was made on a context after it was freed -/
  notAfterFree : ∀ pre c rest mb, t = pre ++ c :: rest → freed c = some mb →
    ∀ x ∈ rest, onContext x ≠ some mb

/-- **`Settled` by its laws.**  That a descriptor is closed before its context is freed is part of
not using the context afterwards. -/
theorem settled_iff_laws (t : List Call) :
    Settled t ↔ contextLease.releasedOnce.Holds t ∧ descriptorLease.releasedOnce.Holds t ∧
      sessionLease.releasedOnce.Holds t ∧ noUseAfterFree.Holds t := by
  constructor
  · intro h
    refine ⟨?_, ?_, ?_, ?_⟩ <;> refine followed_iff.mpr ?_
    · exact fun pre c rest hsplit mb hc => h.contexts pre c rest mb hsplit hc
    · exact fun pre c rest hsplit mb hc => h.descriptors pre c rest mb hsplit hc
    · exact fun pre c rest hsplit conn hc => h.sessions pre c rest conn hsplit hc
    · exact fun pre c rest hsplit mb hc => h.notAfterFree pre c rest mb hsplit hc
  · rintro ⟨hctx, hfd, hsess, huse⟩
    have huse' : ∀ pre c rest mb, t = pre ++ c :: rest → freed c = some mb →
        ∀ x ∈ rest, onContext x ≠ some mb :=
      fun pre c rest mb hsplit hc => followed_iff.mp huse pre c rest hsplit mb hc
    refine ⟨fun pre c rest mb hsplit hc => followed_iff.mp hctx pre c rest hsplit mb hc,
      fun pre c rest mb hsplit hc => followed_iff.mp hfd pre c rest hsplit mb hc, ?_,
      fun pre c rest conn hsplit hc => followed_iff.mp hsess pre c rest hsplit conn hc, huse'⟩
    -- a free between the two would be followed by the close, a call on the context
    rintro pre c rest mb hsplit - mid x post rfl hx y hy hfree
    obtain ⟨mid₁, mid₂, rfl⟩ := List.append_of_mem hy
    refine huse' (pre ++ c :: mid₁) y (mid₂ ++ x :: post) mb (by simp [hsplit]) hfree x (by simp) ?_
    exact onContext_of_closed x mb hx

def IsSleep (c : Call) : Prop := ∃ seconds, c = ⟨.sleep seconds, ()⟩

/-- At every `sleep` in the calls `t` of a run, the calls made before it are settled. -/
def SettledAtEverySleep (t : List Call) : Prop :=
  ∀ pre c post, t = pre ++ c :: post → IsSleep c → Settled pre

/-- A settled trace holds nothing. -/
theorem Settled.held_eq_empty {t : List Call} (h : Settled t) :
    contextLease.held t = ∅ ∧ descriptorLease.held t = ∅ ∧ sessionLease.held t = ∅ := by
  obtain ⟨hctx, hfd, hsess, -⟩ := (settled_iff_laws t).mp h
  exact ⟨contextLease.held_eq_empty hctx, descriptorLease.held_eq_empty hfd,
    sessionLease.held_eq_empty hsess⟩

/-- Two parts that name different contexts and handles are settled together iff each of them is. -/
theorem settled_append {t₁ t₂ : List Call} (h : Apart nameOf t₁ t₂) :
    Settled (t₁ ++ t₂) ↔ Settled t₁ ∧ Settled t₂ := by
  simp only [settled_iff_laws, Law.holds_append _ h]
  tauto

/-- The same for a part in the middle. -/
theorem settled_insert {pre mid post : List Call} (h : Apart nameOf (pre ++ post) mid) :
    Settled (pre ++ mid ++ post) ↔ Settled (pre ++ post) ∧ Settled mid := by
  simp only [settled_iff_laws, Law.holds_insert _ h]
  tauto

/-- A call that names nothing does not matter. -/
theorem settled_snoc_of_unnamed {t : List Call} {c : Call} (h : nameOf c = none) :
    Settled (t ++ [c]) ↔ Settled t := by
  have hc : Settled [c] := by
    rw [settled_iff_laws]
    exact ⟨⟨Law.idle _ c [] h, trivial⟩, ⟨Law.idle _ c [] h, trivial⟩,
      ⟨Law.idle _ c [] h, trivial⟩, ⟨Law.idle _ c [] h, trivial⟩⟩
  have hapart : Apart nameOf t [c] := by
    intro x _ y hy r _ hyr
    rw [List.mem_singleton.mp hy, h] at hyr
    cases hyr
  rw [settled_append hapart, and_iff_left hc]

end ModbusRTU.CallResources
