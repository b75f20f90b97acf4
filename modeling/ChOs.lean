import ChOs.Library.BitWord
import ChOs.Library.ByteMemory
import ChOs.Library.IndexTree
import ChOs.Library.KeyedList
import ChOs.Library.Transition
import ChOs.Library.Utf8
import ChOs.Panic
import ChOs.Memory.Address
import ChOs.Memory.FrameAllocator
import ChOs.Memory.PageTable
import ChOs.Memory.PageTableRefinement
import ChOs.Memory.PageTableRun
import ChOs.Memory.UserAccess
import ChOs.Task.Pid
import ChOs.Task.Scheduler
import ChOs.Task.ProcessTable
import ChOs.Task.Contract
import ChOs.EasyFs.BlockDevice
import ChOs.EasyFs.BlockCache
import ChOs.EasyFs.Bitmap
import ChOs.EasyFs.Layout
import ChOs.EasyFs.Efs
import ChOs.EasyFs.Volume
import ChOs.EasyFs.DiskInode
import ChOs.Memory.MemorySet
import ChOs.Memory.FrameBudget
import ChOs.Task.KernelStack
import ChOs.Task.Waitpid
import ChOs.Memory.FromElf
import ChOs.Task.Exec
import ChOs.EasyFs.InodeBlocks
import ChOs.EasyFs.Resize
import ChOs.EasyFs.DirEntry
import ChOs.EasyFs.Vfs
import ChOs.Fs.OsInode
import ChOs.Fs.Stdio
import ChOs.Syscall.Fs
import ChOs.Fs.OpenFile
import ChOs.Syscall.FdTable
import ChOs.Fs.InodeFile
import ChOs.EasyFs.IndexFrame
import ChOs.EasyFs.DataAlloc
import ChOs.Fs.FileGrowth
import ChOs.Syscall.Append
import ChOs.Fs.FileClear
import ChOs.Fs.FileStore
import ChOs.Fs.InodeTable
import ChOs.Fs.RootDirectory
import ChOs.Fs.DirectoryRuns
import ChOs.Fs.OpenDirectory
