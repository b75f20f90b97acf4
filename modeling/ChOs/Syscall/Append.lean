import ChOs.Syscall.Fs
import ChOs.Fs.FileGrowth
import ChOs.Fs.DirectoryRuns

set_option autoImplicit false

/- `sys_write` to an easy-fs file past its end (`os/src/syscall/fs.rs`, `os/src/fs/inode.rs`). -/

namespace ChOs

open EasyFs DiskInode

section Append

variable {memory : Nat → UInt8} {token : Nat} {fdTable : List (Option File)} {fd ptr len fuel : Nat}
  {bytes : List UInt8} {efsInode : Inode} {fs : EasyFileSystem} {area : Nat} {device : BlockDevice}
  {diskInode : DiskInode}

theorem chunkPieces_ne_nil (shown : userBytes memory token ptr len = some bytes) :
    ∀ piece ∈ (pageChunks ptr (ptr + len)).map (chunkPiece bytes ptr), piece ≠ [] := by
  obtain ⟨sized, -⟩ := userBytes_getElem shown
  rw [List.forall_mem_map]
  intro chunk member
  exact chunkPiece_ne_nil (by rw [sized]; exact member)

/-- `sys_write` of a writable `OSInode` over an easy-fs file that lies on the volume, from an
offset within the file, while the data area has the free blocks the file's new size needs:
it returns `len`, moves the offset past the bytes, and the file holds them from the offset. -/
theorem sysWrite_onVolume (onVolume : efsInode.OnVolume fs area device diskInode)
    {inode : OSInode} (found : fdTable[fd]? = some (some (.osInode inode)))
    (writable : inode.writable = true) (small : ptr + len < 2 ^ 39)
    (enough : (pageChunks ptr (ptr + len)).length < fuel)
    (shown : userBytes memory token ptr len = some bytes)
    (noHole : inode.offset ≤ diskInode.size.toNat)
    (bounded : inode.offset + len ≤ indirect2Bound * blockSz)
    (free : blocksFor (inode.offset + len) - blocksFor diskInode.size.toNat ≤
      (fs.freeBlocks device area).length) :
    ∃ device' diskInode', sysWrite (efsInode.ops fs) device memory token fdTable fd ptr len fuel =
        some ("", .ok ((len : Int), device',
          fdTable.set fd (some (.osInode { inode with offset := inode.offset + len })))) ∧
      efsInode.OnVolume fs area device' diskInode' ∧
      diskInode'.size.toNat = max diskInode.size.toNat (inode.offset + len) ∧
      diskInode'.fileBytes device' = fileWrite (diskInode.fileBytes device) inode.offset bytes ∧
      (fs.freeBlocks device' area).length +
          (blocksFor diskInode'.size.toNat - blocksFor diskInode.size.toNat) =
        (fs.freeBlocks device area).length := by
  have total : (((pageChunks ptr (ptr + len)).map (chunkPiece bytes ptr)).map List.length).sum =
      len := len_chunkPieces shown
  obtain ⟨device', diskInode', loop, onVolume', size', bytes', counted'⟩ :=
    Inode.OnVolume.writeLoop ((pageChunks ptr (ptr + len)).map (chunkPiece bytes ptr))
      (chunkPieces_ne_nil shown) device diskInode inode.offset 0 onVolume noHole
      (by rw [total]; exact bounded) (by rw [total]; exact free)
  rw [total] at loop size'
  rw [flatten_chunkPieces_of_shown shown] at bytes'
  refine ⟨device', diskInode', ?_, onVolume', size', bytes', counted'⟩
  rw [sysWrite_of_writable (efsInode.ops fs) device found writable small enough shown, File.write,
    OSInode.write, loop]
  simp only [ok_bind, Nat.zero_add, pure, Except.pure, Except.map]
  rw [usizeAsIsize, if_pos (by omega)]

/-- What `sys_write` writes into an easy-fs file through one descriptor, from an offset within
the file and as far past its end as the free blocks allow, `sys_read` through another at the same
offset returns, when the reader's slices lie in distinct frames. -/
theorem sysRead_of_sysWrite_onVolume (onVolume : efsInode.OnVolume fs area device diskInode)
    {writer reader : OSInode} {fdW fdR : Nat}
    (writing : fdTable[fdW]? = some (some (.osInode writer))) (writable : writer.writable = true)
    (reading : fdTable[fdR]? = some (some (.osInode reader))) (readable : reader.readable = true)
    (other : fdR ≠ fdW) (sameOffset : reader.offset = writer.offset)
    {ptr' fuel' ch : Nat} {bytes' : List UInt8} (positive : 0 < len)
    (small : ptr + len < 2 ^ 39) (enough : (pageChunks ptr (ptr + len)).length < fuel)
    (shown : userBytes memory token ptr len = some bytes)
    (small' : ptr' + len < 2 ^ 39) (enough' : (pageChunks ptr' (ptr' + len)).length < fuel')
    (shown' : userBytes memory token ptr' len = some bytes')
    (noHole : writer.offset ≤ diskInode.size.toNat)
    (bounded : writer.offset + len ≤ indirect2Bound * blockSz)
    (free : blocksFor (writer.offset + len) - blocksFor diskInode.size.toNat ≤
      (fs.freeBlocks device area).length) :
    ∃ device' fdTable',
      sysWrite (efsInode.ops fs) device memory token fdTable fdW ptr len fuel =
        some ("", .ok (len, device', fdTable')) ∧
      ∃ slices, translatedByteBuffer memory token ptr' len fuel' = some (.ok slices) ∧
        ((slices.map PageSlice.ppn).Nodup →
          ∃ memory',
            sysRead (efsInode.ops fs) device' memory token fdTable' fdR ptr' len fuel' ch =
              some (.ok (len, memory', fdTable'.set fdR
                (some (.osInode { reader with offset := reader.offset + len })))) ∧
            (slices.map (PageSlice.bytes memory')).flatten = bytes) := by
  obtain ⟨sized, -⟩ := userBytes_getElem shown
  obtain ⟨sized', -⟩ := userBytes_getElem shown'
  obtain ⟨device', diskInode', written, onVolume', size', bytes'', -⟩ :=
    sysWrite_onVolume onVolume writing writable small enough shown noHole bounded free
  have holding : efsInode.HoldsFile diskInode'.size device'
      (fileWrite (diskInode.fileBytes device) writer.offset bytes) :=
    ⟨diskInode', onVolume'.holds, rfl, bytes''⟩
  have follows := Inode.ops_follows efsInode fs (show 0 < diskInode'.size.toNat by omega)
  have reading' :
      (fdTable.set fdW (some (.osInode { writer with offset := writer.offset + len })))[fdR]? =
        some (some (.osInode reader)) := by
    rw [List.getElem?_set_ne (Ne.symm other)]
    exact reading
  obtain ⟨slices, translated, reads⟩ :=
    sysRead_osInode (efsInode.ops fs) device' ch follows holding reading' readable small' enough'
      shown'
  have back : fileRead (fileWrite (diskInode.fileBytes device) writer.offset bytes) reader.offset
      bytes' = (bytes.length, bytes) := by
    rw [sameOffset]
    exact fileRead_fileWrite _ writer.offset bytes bytes' (sized'.trans sized.symm)
  rw [fileRead, Prod.mk.injEq, sized', sized] at back
  obtain ⟨count, filled⟩ := back
  refine ⟨device', _, written, slices, translated, fun distinct => ?_⟩
  obtain ⟨memory', call, stored⟩ := reads distinct
  rw [count] at call
  exact ⟨memory', call, stored.trans filled⟩

theorem root_file_reads_back_write :
    ∃ table machine, twoPageSpace = .ok (table, machine) ∧ ∃ device' fdTable',
      sysWrite ((EasyFileSystem.layout 1030 1).rootInode.ops (EasyFileSystem.layout 1030 1))
          (EasyFileSystem.formatted emptyImage 1030 1) (hiAtZero machine.memory) table.token
          [some (.osInode ⟨false, true, 0⟩), some (.osInode ⟨true, false, 0⟩)] 0 0 2 3 =
        some ("", .ok (2, device', fdTable')) ∧
      ∃ slices, translatedByteBuffer (hiAtZero machine.memory) table.token 4096 2 3 =
          some (.ok slices) ∧
        ((slices.map PageSlice.ppn).Nodup →
          ∃ memory', sysRead ((EasyFileSystem.layout 1030 1).rootInode.ops
              (EasyFileSystem.layout 1030 1)) device' (hiAtZero machine.memory) table.token fdTable'
              1 4096 2 3 0 =
            some (.ok (2, memory', fdTable'.set 1 (some (.osInode ⟨true, false, 2⟩)))) ∧
          (slices.map (PageSlice.bytes memory')).flatten = [0x68, 0x69]) := by
  obtain ⟨table, machine, built, -, two, blank, -⟩ := twoPageSpace_hi
  have volume := emptyImage_filesOnVolume
  have empty := emptyImage_directoryOnVolume.rootSize
  have counted := volume.counted
  simp only [List.map_cons, List.map_nil, List.sum_cons, List.sum_nil, empty] at counted
  have area : (EasyFileSystem.regions 1030 1).dataAreaBlocks.toNat = 3 := by decide
  have nothing : blocksFor (direntSz * ([] : List String).length) = 0 := by decide
  have free : blocksFor ((⟨false, true, 0⟩ : OSInode).offset + 2) -
      blocksFor ([(EasyFileSystem.layout 1030 1).rootInode][0].diskInodeOn
        (EasyFileSystem.formatted emptyImage 1030 1)).size.toNat ≤
      ((EasyFileSystem.layout 1030 1).freeBlocks (EasyFileSystem.formatted emptyImage 1030 1)
        (EasyFileSystem.regions 1030 1).dataAreaBlocks.toNat).length := by
    have needed : blocksFor ((⟨false, true, 0⟩ : OSInode).offset + 2) = 1 := by decide
    rw [List.getElem_cons_zero, empty, nothing, needed]
    omega
  have written : (pageChunks 0 (0 + 2)).length < 3 := by
    rw [pageChunks_single (by decide) (by decide)]
    decide
  have read : (pageChunks 4096 (4096 + 2)).length < 3 := by
    rw [pageChunks_single (by decide) (by decide)]
    decide
  have writing : ([some (.osInode ⟨false, true, 0⟩), some (.osInode ⟨true, false, 0⟩)] :
      List (Option File))[0]? = some (some (.osInode ⟨false, true, 0⟩)) := rfl
  have reading : ([some (.osInode ⟨false, true, 0⟩), some (.osInode ⟨true, false, 0⟩)] :
      List (Option File))[1]? = some (some (.osInode ⟨true, false, 0⟩)) := rfl
  refine ⟨table, machine, built, ?_⟩
  exact sysRead_of_sysWrite_onVolume (volume.onVolume 0 (by decide)) writing rfl reading rfl
    (by decide) rfl (by decide) (by decide) written two (by decide) read blank (Nat.zero_le _)
    (by decide +kernel) free

end Append

end ChOs
